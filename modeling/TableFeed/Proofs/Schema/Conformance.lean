import TableFeed.Proofs.Entries
import TableFeed.Schema.Struct

/-!
# What a schema admits

`Schema.check` walks a payload along a schema and carries the path for its error.
`Schema.Admits` says without paths what it lets pass, and `check_eq_ok_iff` that it lets
pass just that, whatever the path.  So what was checked as part of a larger payload passes
by itself: reading a nested struct from a checked one never fails
(`Struct.getStruct?_eq_ok`).
-/

namespace TableFeed

theorem forM_eq_ok_iff {ε α : Type} {f : α → Except ε Unit} {items : List α} :
    items.forM f = .ok () ↔ ∀ item ∈ items, f item = .ok () := by
  induction items with
  | nil => exact ⟨fun _ _ h => absurd h List.not_mem_nil, fun _ => rfl⟩
  | cons item rest ih =>
    rw [List.forall_mem_cons, ← ih]
    change (f item >>= fun _ => rest.forM f) = .ok () ↔ _
    cases f item with
    | error error => simp [bind, Except.bind]
    | ok _ => exact ⟨fun h => ⟨rfl, h⟩, fun h => h.2⟩

theorem Json.present?_eq_none_iff {value : Option Json} :
    present? value = none ↔ orNull value = .null := by
  rcases value with _ | value
  · simp [present?, orNull]
  · cases value <;> simp [present?, orNull]

theorem Json.present?_eq_some_iff {value : Option Json} {found : Json} :
    present? value = some found ↔ value = some found ∧ found ≠ .null := by
  rcases value with _ | value
  · simp [present?]
  · cases value <;> simp +contextual [present?, eq_comm]

namespace Schema

mutual

/-- A schema admits a missing value where one is allowed, and otherwise a value of a kind that it
allows whose parts its parts admit. -/
def Admits (value : Option Json) : Schema → Prop
  | ⟨kind, optional, _, _, _, defaultValue, _, fields, items, _, _⟩ =>
    match Json.present? value with
    | none => (optional || defaultValue.isSome) = true
    | some value => kind.allows value = true ∧
      match value with
      | .object members => kind = .struct → AdmitsFields members fields
      | .array values => kind = .array → AdmitsItems values items
      | _ => True

/-- Fields admit members when each of them admits the member with its name. -/
def AdmitsFields (members : List (String × Json)) : List (String × Schema) → Prop
  | [] => True
  | (name, s) :: rest => Admits (members.lookup name) s ∧ AdmitsFields members rest

/-- The schema of items admits items when it admits each of them. -/
def AdmitsItems (values : List Json) : Option Schema → Prop
  | none => True
  | some s => ∀ value ∈ values, Admits (some value) s

end

theorem admitsFields_iff {members : List (String × Json)} {fields : List (String × Schema)} :
    AdmitsFields members fields ↔
      ∀ field ∈ fields, Admits (members.lookup field.1) field.2 := by
  induction fields with
  | nil => simp [AdmitsFields]
  | cons field rest ih => rw [AdmitsFields, ih, List.forall_mem_cons]

/-- Where a schema of struct kind admits a value, there is an object that its fields admit. -/
theorem Admits.exists_object {s : Schema} {value : Option Json} {found : Json}
    (h : Admits value s) (hkind : s.kind = .struct) (hpresent : Json.present? value = some found) :
    ∃ members, found = .object members ∧ AdmitsFields members s.fields := by
  obtain ⟨kind, _, _, _, _, _, _, fields, _, _, _⟩ := s
  cases hkind
  rw [Admits, hpresent] at h
  cases found with
  | object members => exact ⟨members, rfl, h.2 rfl⟩
  | null => exact absurd h.1 (by simp [Kind.allows])
  | bool b => exact absurd h.1 (by simp [Kind.allows])
  | number n => exact absurd h.1 (by simp [Kind.allows, Kind.isInteger])
  | string text => exact absurd h.1 (by simp [Kind.allows])
  | array items => exact absurd h.1 (by simp [Kind.allows])

mutual

/-- The check of a value passes exactly what the schema admits, whatever the path. -/
theorem check_eq_ok_iff (path : String) (value : Option Json) :
    (s : Schema) → (check path value s = .ok () ↔ Admits value s)
  | ⟨kind, optional, _, _, _, defaultValue, _, fields, items, _, _⟩ => by
    rw [check, Admits]
    cases Json.present? value with
    | none => cases optional || defaultValue.isSome <;> simp
    | some value =>
      cases hallows : kind.allows value with
      | false => simp [hallows]
      | true =>
        simp only [hallows, ↓reduceIte, true_and]
        cases value with
        | object members =>
          by_cases hkind : kind = .struct
          · simpa [hkind] using checkFields_eq_ok_iff _ members fields
          · simp [hkind]
        | array values =>
          by_cases hkind : kind = .array
          · simpa [hkind] using checkItems_eq_ok_iff path values items
          · simp [hkind]
        | null => simp
        | bool b => simp
        | number n => simp
        | string text => simp

theorem checkFields_eq_ok_iff (pathOf : String → String) (members : List (String × Json)) :
    (fields : List (String × Schema)) →
      (checkFields pathOf members fields = .ok () ↔ AdmitsFields members fields)
  | [] => by simp [checkFields, AdmitsFields]
  | (name, s) :: rest => by
    have hfirst := check_eq_ok_iff (pathOf name) (members.lookup name) s
    have hrest := checkFields_eq_ok_iff pathOf members rest
    rw [checkFields, AdmitsFields, ← hfirst, ← hrest]
    cases check (pathOf name) (members.lookup name) s with
    | error error => simp
    | ok _ => simp

theorem checkItems_eq_ok_iff (path : String) (values : List Json) :
    (items : Option Schema) → (checkItems path values items = .ok () ↔ AdmitsItems values items)
  | none => by simp [checkItems, AdmitsItems]
  | some s => by
    have hitem := fun (index : Nat) (value : Json) =>
      check_eq_ok_iff (path ++ "[" ++ Text.natText index ++ "]") (some value) s
    rw [checkItems, AdmitsItems, forM_eq_ok_iff]
    constructor
    · intro h value hvalue
      obtain ⟨index, hlt, rfl⟩ := List.getElem_of_mem hvalue
      have hmem : (values[index], index) ∈ values.zipIdx := by
        rw [List.mem_zipIdx_iff_getElem?]
        exact List.getElem?_eq_getElem hlt
      exact (hitem index values[index]).1 (h (values[index], index) hmem)
    · rintro h ⟨value, index⟩ hmem
      rw [List.mem_zipIdx_iff_getElem?] at hmem
      have hvalue := h value (List.mem_of_getElem? hmem)
      exact (hitem index value).2 hvalue

end

end Schema

namespace Struct

variable {schema : Schema} {payload : Json} {s : Struct}

/-- A struct is made of an object that its schema admits, and of nothing else. -/
theorem ofJson_eq_ok_iff : ofJson schema payload = .ok s ↔
    schema.kind = .struct ∧ ∃ members, payload = .object members ∧
      Schema.AdmitsFields members schema.fields ∧ s = ⟨schema, members⟩ := by
  unfold ofJson
  by_cases hkind : schema.kind = .struct
  · rw [if_neg (fun hne => hne hkind)]
    cases payload with
    | object members =>
      have hchecked := Schema.checkFields_eq_ok_iff id members schema.fields
      simp only [hkind, ← hchecked, Json.object.injEq, exists_eq_left', true_and]
      cases Schema.checkFields id members schema.fields with
      | error error => simp [Except.map]
      | ok _ => simp [Except.map, eq_comm]
    | null => simp
    | bool b => simp
    | number n => simp
    | string text => simp
    | array items => simp
  · simp [hkind]

/-! ## Reading -/

/-- A struct declares a field with a name. -/
def Declares (s : Struct) (name : String) : Prop :=
  (s.schema.field? name).isSome = true

instance (s : Struct) (name : String) : Decidable (s.Declares name) :=
  inferInstanceAs (Decidable ((s.schema.field? name).isSome = true))

/-- A struct holds the fields that it declares and that are not null in it. -/
def Holds (s : Struct) (name : String) : Prop :=
  ∃ value, s.raw? name = some value ∧ value ≠ .null

theorem Holds.declares {name : String} (h : s.Holds name) : s.Declares name := by
  obtain ⟨value, hraw, -⟩ := h
  obtain ⟨field, hfield, -⟩ := Option.map_eq_some_iff.1 hraw
  rw [Declares, hfield]
  rfl

theorem field?_of_not_declares {name : String} (h : ¬ s.Declares name) :
    s.schema.field? name = none := by
  rwa [Declares, Bool.not_eq_true, Option.isSome_eq_false_iff, Option.isNone_iff_eq_none] at h

theorem getStruct?_of_not_declares {name : String} (h : ¬ s.Declares name) :
    s.getStruct? name = .error (.unknownField name) := by
  rw [getStruct?, field?_of_not_declares h]

/-- A field of struct kind is read from a checked struct as what it holds, or as nothing. -/
theorem getStruct?_eq_ok {name : String} {field : Schema} (hmade : ofJson schema payload = .ok s)
    (hfield : s.schema.field? name = some field) (hkind : field.kind = .struct) :
    ∃ image, s.getStruct? name = .ok image ∧ (image.isSome = true ↔ s.Holds name) ∧
      ∀ inner, image = some inner →
        inner.schema = field ∧ s.raw? name = some (.object inner.members) := by
  obtain ⟨-, members, -, hadmits, rfl⟩ := ofJson_eq_ok_iff.1 hmade
  have hmember := Schema.admitsFields_iff.1 hadmits _ (Entries.mem_of_lookup hfield)
  have hraw : raw? ⟨schema, members⟩ name = some (Json.orNull (members.lookup name)) := by
    rw [raw?, hfield]
    rfl
  simp only [getStruct?, hfield, Holds, hraw]
  cases hpresent : Json.present? (members.lookup name) with
  | none =>
    have hnull := Json.present?_eq_none_iff.1 hpresent
    exact ⟨none, rfl, by simp [hnull], nofun⟩
  | some value =>
    -- The check of the whole struct has passed the value, and so does a check of it alone.
    obtain ⟨hlookup, -⟩ := Json.present?_eq_some_iff.1 hpresent
    obtain ⟨inner, rfl, hinner⟩ := hmember.exists_object hkind hpresent
    have himage : ofJson field (.object inner) = .ok ⟨field, inner⟩ :=
      ofJson_eq_ok_iff.2 ⟨hkind, inner, rfl, hinner, rfl⟩
    refine ⟨some ⟨field, inner⟩, ?_, ?_, ?_⟩
    · simp only [himage]
      rfl
    · simp [hlookup, Json.orNull]
    · intro image heq
      cases heq
      exact ⟨rfl, by rw [hlookup]; rfl⟩

end Struct

end TableFeed
