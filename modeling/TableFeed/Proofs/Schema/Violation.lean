import TableFeed.Proofs.Except
import TableFeed.Proofs.Schema.Site

/-!
# The first violation of a schema

The check of a payload judges its sites: it passes when all of them conform, and otherwise its error
is that of the first which does not (`Site.Judges`).  This is shown of a row of sites, which are
checked until one fails, and so by induction on the schema of every site (`Site.judges_check`)
and of a whole object (`Struct.ofJson_firstViolation`).

Members that no field declares have no site, so objects that differ in them alone are judged
alike (`Schema.Alike`).
-/

namespace TableFeed

/-! ## Checks in a row -/

theorem Schema.checkFields_eq_forM (pathOf : String → String) (members : List (String × Json))
    (fields : List (String × Schema)) :
    checkFields pathOf members fields =
      fields.forM fun field => check (pathOf field.1) (members.lookup field.1) field.2 := by
  induction fields with
  | nil => rfl
  | cons field rest ih =>
    rw [checkFields, ih]
    change _ = (check (pathOf field.1) (members.lookup field.1) field.2 >>= fun _ => _)
    cases check (pathOf field.1) (members.lookup field.1) field.2 with
    | error error => rfl
    | ok _ => rfl

theorem Schema.allowsMissing_iff (s : Schema) :
    s.allowsMissing = true ↔ s.optional = true ∨ s.defaultValue ≠ none := by
  rw [allowsMissing, Bool.or_eq_true, Option.isSome_iff_ne_none]

theorem Schema.check_eq (path : String) (value : Option Json) (s : Schema) :
    check path value s =
      match Json.present? value with
      | none => if s.allowsMissing then .ok () else .error (.missingRequired path)
      | some value =>
        if s.kind.allows value then
          match value with
          | .object members =>
            if s.kind = .struct then
              checkFields (fun name => path ++ "." ++ name) members s.fields
            else .ok ()
          | .array values => if s.kind = .array then checkItems path values s.items else .ok ()
          | _ => .ok ()
        else .error (.typeMismatch path s.kind value.kindName) := by
  cases s
  rw [check]
  rfl

theorem Schema.check_object {s : Schema} {members : List (String × Json)} (path : String)
    (hkind : s.kind = .struct) : check path (some (.object members)) s =
      checkFields (fun name => path ++ "." ++ name) members s.fields := by
  rw [check_eq, hkind]
  rfl

theorem Schema.check_array {s item : Schema} {values : List Json} (path : String)
    (hkind : s.kind = .array) (hitems : s.items = some item) :
    check path (some (.array values)) s = checkItems path values (some item) := by
  rw [check_eq, hkind, hitems]
  rfl

namespace Site

variable {site outer inner : Site} {index : Nat} {error : SchemaError} {position : List Nat}
  {row : Nat → Site → Prop}

/-! ## The check along a row -/

/-- The check of what stands at a site. -/
def check (site : Site) : Except SchemaError Unit :=
  Schema.check site.path site.value site.schema

/-- A result judges some sites: it is good when all of them conform, and otherwise the error of the
first that does not. -/
structure Judges (among : Site → Prop) (result : Except SchemaError Unit) : Prop where
  /-- It is good when all of the sites conform. -/
  ok_iff : result = .ok () ↔ ∀ site, among site → site.Conforms
  /-- An error is that of the first violation. -/
  error_iff : ∀ error, result = .error error ↔ ∃ site, FirstViolation among site error

/-- A result is that of checking the sites of a row until one fails. -/
structure Along (row : Nat → Site → Prop) (result : Except SchemaError Unit) : Prop where
  /-- It is good when every check is. -/
  ok_iff : result = .ok () ↔ ∀ index site, row index site → site.check = .ok ()
  /-- An error is that of the first check that fails. -/
  error_iff : ∀ error, result = .error error ↔
    ∃ index site, row index site ∧ site.check = .error error ∧
      ∀ earlier < index, ∀ other, row earlier other → other.check = .ok ()

theorem Along.of_forM {α : Type} {items : List α} {f : α → Except SchemaError Unit}
    (siteOf : Nat → α → Site)
    (hf : ∀ index item, items[index]? = some item → f item = (siteOf index item).check)
    (hrow : ∀ index site, row index site ↔
      ∃ item, items[index]? = some item ∧ site = siteOf index item) :
    Along row (items.forM f) where
  ok_iff := by
    rw [forM_eq_ok_iff]
    constructor
    · intro h index site hsite
      obtain ⟨item, hitem, rfl⟩ := (hrow index site).1 hsite
      rw [← hf index item hitem]
      exact h item (List.mem_of_getElem? hitem)
    · intro h item hmem
      obtain ⟨index, hitem⟩ := List.getElem?_of_mem hmem
      rw [hf index item hitem]
      exact h index _ ((hrow index _).2 ⟨item, hitem, rfl⟩)
  error_iff error := by
    rw [forM_eq_error_iff]
    constructor
    · rintro ⟨index, item, hitem, herror, hbefore⟩
      refine ⟨index, siteOf index item, (hrow index _).2 ⟨item, hitem, rfl⟩, ?_, ?_⟩
      · rw [← hf index item hitem, herror]
      · intro earlier hlt other hother
        obtain ⟨item', hitem', rfl⟩ := (hrow earlier other).1 hother
        rw [← hf earlier item' hitem', hbefore earlier hlt item' hitem']
    · rintro ⟨index, site, hsite, herror, hbefore⟩
      obtain ⟨item, hitem, rfl⟩ := (hrow index site).1 hsite
      refine ⟨index, item, hitem, by rw [hf index item hitem, herror], ?_⟩
      intro earlier hlt item' hitem'
      rw [hf earlier item' hitem']
      exact hbefore earlier hlt _ ((hrow earlier _).2 ⟨item', hitem', rfl⟩)

/-- Where nothing is in a row, any check along it is good. -/
theorem Along.of_empty (h : ∀ index site, ¬ row index site) : Along row (.ok ()) where
  ok_iff := ⟨fun _ index site hsite => absurd hsite (h index site), fun _ => rfl⟩
  error_iff _ := ⟨nofun, fun ⟨index, site, hsite, _⟩ => absurd hsite (h index site)⟩

/-- Checks along a row judge the row and all below it when the check of each of its sites judges
what is inside that. -/
theorem Along.judges {result : Except SchemaError Unit} (h : Along row result)
    (hrow : Row position row)
    (hsites : ∀ index site, row index site → Judges (Inside site) site.check) :
    Judges (Below row) result where
  ok_iff := by
    rw [h.ok_iff]
    constructor
    · rintro hchecks site ⟨index, outer, houter, hinside⟩
      exact (hsites index outer houter).ok_iff.1 (hchecks index outer houter) site hinside
    · intro hconforms index outer houter
      exact (hsites index outer houter).ok_iff.2
        fun site hinside => hconforms site ⟨index, outer, houter, hinside⟩
  error_iff error := by
    rw [h.error_iff]
    constructor
    · rintro ⟨index, outer, houter, herror, hbefore⟩
      obtain ⟨site, hsite⟩ := ((hsites index outer houter).error_iff error).1 herror
      refine ⟨site, hrow.firstViolation_iff.2 ⟨index, outer, houter, hsite, ?_⟩⟩
      intro earlier hlt other hother
      exact (hsites earlier other hother).ok_iff.1 (hbefore earlier hlt other hother)
    · rintro ⟨site, hsite⟩
      obtain ⟨index, outer, houter, hfirst, hbefore⟩ := hrow.firstViolation_iff.1 hsite
      refine ⟨index, outer, houter, ?_, ?_⟩
      · exact ((hsites index outer houter).error_iff error).2 ⟨site, hfirst⟩
      · intro earlier hlt other hother
        exact (hsites earlier other hother).ok_iff.2 (hbefore earlier hlt other hother)

theorem along_fields (position : List Nat) (pathOf : String → String)
    (members : List (String × Json)) (fields : List (String × Schema)) :
    Along (fun index site => ∃ field, fields[index]? = some field ∧
        site = ⟨position ++ [index], pathOf field.1, members.lookup field.1, field.2⟩)
      (Schema.checkFields pathOf members fields) := by
  rw [Schema.checkFields_eq_forM]
  exact .of_forM _ (fun _ _ _ => rfl) fun _ _ => Iff.rfl

theorem along_items (position : List Nat) (path : String) (values : List Json) (item : Schema) :
    Along (fun index site => ∃ value, values[index]? = some value ∧
        site = ⟨position ++ [index], path ++ "[" ++ Text.natText index ++ "]", some value, item⟩)
      (Schema.checkItems path values (some item)) := by
  rw [Schema.checkItems]
  refine .of_forM (fun _ entry => ⟨position ++ [entry.2],
    path ++ "[" ++ Text.natText entry.2 ++ "]", some entry.1, item⟩) (fun _ _ _ => rfl) ?_
  intro index site
  rw [List.getElem?_zipIdx, Nat.zero_add]
  cases values[index]? with
  | none => simp
  | some value => simp

/-! ## The check of a site -/

theorem Violates.check (h : site.Violates error) : site.check = .error error := by
  rw [Site.check, Schema.check_eq]
  cases h with
  | missing habsent hrequired hdefault =>
    rw [absent_iff.1 habsent]
    refine if_neg fun hallowed => ?_
    simp [Schema.allowsMissing_iff, hrequired, hdefault] at hallowed
  | mismatch value hfound hpresent hrefused =>
    rw [Json.present?_eq_some_iff.2 ⟨hfound, hpresent⟩]
    exact if_neg fun hallows => hrefused (Kind.takes_of_allows hallows)

theorem inner_object_iff {path : String} {members : List (String × Json)} {s : Schema}
    (hkind : s.kind = .struct) : Inner index ⟨position, path, some (.object members), s⟩ inner ↔
      ∃ field, s.fields[index]? = some field ∧
        inner = ⟨position ++ [index], path ++ "." ++ field.1, members.lookup field.1, field.2⟩ := by
  constructor
  · intro h
    cases h with
    | field _ hdeclared => exact ⟨_, hdeclared, rfl⟩
  · rintro ⟨field, hdeclared, rfl⟩
    exact .field hkind hdeclared

theorem inner_array_iff {path : String} {values : List Json} {s item : Schema}
    (hkind : s.kind = .array) (hitems : s.items = some item) :
    Inner index ⟨position, path, some (.array values), s⟩ inner ↔
      ∃ value, values[index]? = some value ∧
        inner = ⟨position ++ [index], path ++ "[" ++ Text.natText index ++ "]", some value, item⟩
      := by
  constructor
  · intro h
    cases h with
    | item _ hitems' hfound =>
      cases hitems.symm.trans hitems'
      exact ⟨_, hfound, rfl⟩
  · rintro ⟨value, hfound, rfl⟩
    exact .item hkind hitems hfound

/-- At a site that conforms by itself the check goes on to what is directly inside it. -/
theorem Conforms.along (h : site.Conforms) :
    Along (fun index inner => Inner index site inner) site.check := by
  obtain ⟨position, path, value, s⟩ := site
  rw [Site.check, Schema.check_eq]
  cases h with
  | missing habsent hallowed =>
    rw [absent_iff.1 habsent]
    simp only [s.allowsMissing_iff.2 hallowed, ↓reduceIte]
    refine .of_empty fun index inner hinner => ?_
    cases hinner with
    | field _ _ => simp at habsent
    | item _ _ _ => simp at habsent
  | present value hfound htakes =>
    cases hfound
    have hpresent : Json.present? (some value) = some value :=
      Json.present?_eq_some_iff.2 ⟨rfl, fun hnull => Kind.not_takes_null (hnull ▸ htakes)⟩
    simp only [hpresent, Kind.allows_iff.2 htakes, ↓reduceIte]
    generalize hkind : s.kind = kind at htakes
    cases htakes with
    | fields members =>
      simp only [inner_object_iff hkind, ↓reduceIte]
      exact along_fields position _ members s.fields
    | items values =>
      cases hitems : s.items with
      | none =>
        refine .of_empty fun index inner hinner => ?_
        cases hinner with
        | item _ hitems' _ => cases hitems.symm.trans hitems'
      | some item =>
        simp only [inner_array_iff hkind hitems, ↓reduceIte]
        exact along_items position path values item
    | entries members =>
      refine .of_empty fun index inner hinner => ?_
      cases hinner with
      | field hstruct _ => cases hkind.symm.trans hstruct
    | pairs values =>
      refine .of_empty fun index inner hinner => ?_
      cases hinner with
      | item harray _ _ => cases hkind.symm.trans harray
    | whole _ _ | number _ _ | truth _ | text _ | base64 _ | unscaled _ =>
      refine .of_empty fun index inner hinner => ?_
      cases hinner

/-- Below a site that conforms by itself, a judge of the others is one of all. -/
theorem Judges.of_below {result : Except SchemaError Unit} (hconforms : site.Conforms)
    (h : Judges (Below fun index inner => Inner index site inner) result) :
    Judges (Inside site) result where
  ok_iff := by
    rw [h.ok_iff]
    constructor
    · intro hbelow other hother
      rcases inside_iff.1 hother with rfl | hother
      · exact hconforms
      · exact hbelow other hother
    · exact fun hall other hother => hall other (inside_iff.2 (.inr hother))
  error_iff error := by
    rw [h.error_iff]
    constructor
    · rintro ⟨first, hmem, hviolates, hbefore⟩
      refine ⟨first, inside_iff.2 (.inr hmem), hviolates, ?_⟩
      intro other hother hfirst
      rcases inside_iff.1 hother with rfl | hother
      · exact hconforms
      · exact hbefore other hother hfirst
    · rintro ⟨first, hmem, hviolates, hbefore⟩
      rcases inside_iff.1 hmem with rfl | hmem
      · exact absurd hviolates hconforms.not_violates
      · exact ⟨first, hmem, hviolates, fun other hother =>
          hbefore other (inside_iff.2 (.inr hother))⟩

/-- A site that violates its schema is the first that does so among those inside it. -/
theorem Violates.judges (h : site.Violates error) : Judges (Inside site) (.error error) where
  ok_iff := ⟨nofun, fun hall => absurd h (hall site .refl).not_violates⟩
  error_iff error' := by
    constructor
    · intro heq
      refine ⟨site, .refl, Except.error.inj heq ▸ h, ?_⟩
      exact fun other hother hbefore => absurd hbefore hother.not_before
    · rintro ⟨first, hmem, hviolates, -⟩
      rcases inside_iff.1 hmem with rfl | ⟨index, inner, hinner, -⟩
      · exact h.check.symm.trans hviolates.check
      · exact absurd h hinner.conforms.not_violates

/-- The check of a site judges it with all inside it. -/
theorem judges_check (site : Site) : Judges (Inside site) site.check := by
  rcases site.conforms_or_violates with hconforms | ⟨error, hviolates⟩
  · refine .of_below hconforms (hconforms.along.judges (row_inner site) ?_)
    intro index inner hinner
    have := hinner.sizeOf_lt
    exact judges_check inner
  · rw [hviolates.check]
    exact hviolates.judges
termination_by sizeOf site.schema

end Site

/-! ## Payloads of a schema -/

namespace Schema

/-- The sites of the fields that a struct schema declares, in an object. -/
def Outermost (s : Schema) (members : List (String × Json)) (index : Nat) (site : Site) : Prop :=
  ∃ field, s.fields[index]? = some field ∧
    site = ⟨[index], field.1, members.lookup field.1, field.2⟩

/-- The sites of an object that a struct schema describes. -/
def Checked (s : Schema) (members : List (String × Json)) : Site → Prop :=
  Site.Below (s.Outermost members)

theorem row_outermost (s : Schema) (members : List (String × Json)) :
    Site.Row [] (s.Outermost members) where
  position_eq _ _ := fun ⟨_, _, hsite⟩ => by rw [hsite]; rfl
  unique index site other := by
    rintro ⟨field, hfield, rfl⟩ ⟨field', hfield', rfl⟩
    cases hfield.symm.trans hfield'
    rfl

/-- The check of the fields judges all sites of the object. -/
theorem judges_checkFields (s : Schema) (members : List (String × Json)) :
    Site.Judges (s.Checked members) (checkFields id members s.fields) := by
  have halong : Site.Along (s.Outermost members) (checkFields id members s.fields) :=
    Site.along_fields [] id members s.fields
  exact halong.judges (s.row_outermost members) fun _ site _ => site.judges_check

/-- Two values agree on all that a schema describes. -/
inductive Alike : Schema → Option Json → Option Json → Prop where
  | same (s : Schema) (value : Option Json) : Alike s value value
  | object {s : Schema} {members others : List (String × Json)} (kind : s.kind = .struct)
      (fields : ∀ field ∈ s.fields,
        Alike field.2 (members.lookup field.1) (others.lookup field.1)) :
      Alike s (some (.object members)) (some (.object others))
  | array {s item : Schema} {values others : List Json} (kind : s.kind = .array)
      (items : s.items = some item)
      (each : ∀ index : Nat, Alike item values[index]? others[index]?) :
      Alike s (some (.array values)) (some (.array others))

theorem Alike.isSome_eq {s : Schema} {value other : Option Json} (h : Alike s value other) :
    value.isSome = other.isSome := by
  cases h with
  | same _ _ => rfl
  | object _ _ => rfl
  | array _ _ _ => rfl

/-- Objects are alike when they have the same members among those that are declared. -/
theorem Alike.of_lookup {s : Schema} {members others : List (String × Json)}
    (hkind : s.kind = .struct)
    (h : ∀ name ∈ s.fieldNames, members.lookup name = others.lookup name) :
    Alike s (some (.object members)) (some (.object others)) := by
  refine .object hkind fun field hmem => ?_
  rw [h field.1 (List.mem_map_of_mem hmem)]
  exact .same _ _

/-- A member that is not declared makes no difference. -/
theorem Alike.cons_undeclared {s : Schema} {members : List (String × Json)} {name : String}
    (hkind : s.kind = .struct) (hname : name ∉ s.fieldNames) (value : Json) :
    Alike s (some (.object members)) (some (.object ((name, value) :: members))) := by
  refine .of_lookup hkind fun declared hmem => ?_
  have hne : ¬ declared = name := fun heq => hname (heq ▸ hmem)
  rw [Entries.lookup_cons_ite, if_neg hne]

theorem checkFields_congr (pathOf : String → String) {members others : List (String × Json)}
    {fields : List (String × Schema)}
    (h : ∀ field ∈ fields, ∀ path,
      check path (members.lookup field.1) field.2 = check path (others.lookup field.1) field.2) :
    checkFields pathOf members fields = checkFields pathOf others fields := by
  rw [checkFields_eq_forM, checkFields_eq_forM]
  exact forM_congr (List.map_congr_left fun field hmem => h field hmem _)

theorem checkItems_congr (path : String) {values others : List Json} {item : Schema}
    (hsome : ∀ index : Nat, values[index]?.isSome = others[index]?.isSome)
    (h : ∀ (index : Nat) path, check path values[index]? item = check path others[index]? item) :
    checkItems path values (some item) = checkItems path others (some item) := by
  rw [checkItems, checkItems]
  refine forM_congr (List.ext_getElem? fun index => ?_)
  rw [List.getElem?_map, List.getElem?_map, List.getElem?_zipIdx, List.getElem?_zipIdx,
    Nat.zero_add]
  have hsome := hsome index
  have h := h index (path ++ "[" ++ Text.natText index ++ "]")
  cases hvalue : values[index]? with
  | none =>
    rw [hvalue, Option.isSome_none, eq_comm, Option.isSome_eq_false_iff,
      Option.isNone_iff_eq_none] at hsome
    rw [hsome]
  | some value =>
    rw [hvalue, Option.isSome_some, eq_comm, Option.isSome_iff_exists] at hsome
    obtain ⟨other, hother⟩ := hsome
    rw [hvalue, hother] at h
    rw [hother]
    exact congrArg some h

/-- The check does not tell such values apart. -/
theorem Alike.check_eq {s : Schema} {value other : Option Json} (h : Alike s value other) :
    ∀ path, check path value s = check path other s := by
  induction h with
  | same s value => exact fun _ => rfl
  | @object s members others hkind _ ih =>
    intro path
    have hfields := checkFields_congr (fun name => path ++ "." ++ name) ih
    rw [check_object path hkind, check_object path hkind, hfields]
  | @array s item values others hkind hitems heach ih =>
    intro path
    have hchecked := checkItems_congr path (fun index => (heach index).isSome_eq) ih
    rw [check_array path hkind hitems, check_array path hkind hitems, hchecked]

theorem Alike.checkFields_eq {s : Schema} {members others : List (String × Json)}
    (h : Alike s (some (.object members)) (some (.object others))) (pathOf : String → String) :
    checkFields pathOf members s.fields = checkFields pathOf others s.fields := by
  cases h with
  | same _ _ => rfl
  | object _ hfields =>
    exact checkFields_congr pathOf fun field hmem => (hfields field hmem).check_eq

end Schema

namespace Struct

variable {schema : Schema} {members : List (String × Json)}

theorem ofJson_object (hkind : schema.kind = .struct) : ofJson schema (.object members) =
    (Schema.checkFields id members schema.fields).map fun _ => ⟨schema, members⟩ := by
  rw [ofJson, if_neg (not_not.2 hkind)]

theorem ofJson_eq_ok_iff_checkFields (hkind : schema.kind = .struct) :
    (∃ s, ofJson schema (.object members) = .ok s) ↔
      Schema.checkFields id members schema.fields = .ok () := by
  rw [ofJson_object hkind]
  cases Schema.checkFields id members schema.fields with
  | error error => simp [Except.map]
  | ok _ => simp [Except.map]

theorem ofJson_eq_error_iff_checkFields (hkind : schema.kind = .struct) {error : SchemaError} :
    ofJson schema (.object members) = .error error ↔
      Schema.checkFields id members schema.fields = .error error := by
  rw [ofJson_object hkind]
  cases Schema.checkFields id members schema.fields with
  | error error => simp [Except.map]
  | ok _ => simp [Except.map]

/-- A struct is made of an object just when all sites of it conform to their schemas, and
otherwise the error is that of the first which does not.  Objects that differ in nothing that the
schema describes are judged alike. -/
theorem ofJson_firstViolation (hkind : schema.kind = .struct) (members : List (String × Json)) :
    ((∃ s, ofJson schema (.object members) = .ok s) ↔
      ∀ site, schema.Checked members site → site.Conforms) ∧
    (∀ error, ofJson schema (.object members) = .error error ↔
      ∃ site, Site.FirstViolation (schema.Checked members) site error) ∧
    ∀ others, schema.Alike (some (.object members)) (some (.object others)) →
      ∀ error, ofJson schema (.object members) = .error error ↔
        ofJson schema (.object others) = .error error := by
  have hjudges := schema.judges_checkFields
  refine ⟨?_, fun error => ?_, fun others halike error => ?_⟩
  · rw [ofJson_eq_ok_iff_checkFields hkind, (hjudges members).ok_iff]
  · rw [ofJson_eq_error_iff_checkFields hkind, (hjudges members).error_iff]
  · rw [ofJson_eq_error_iff_checkFields hkind, ofJson_eq_error_iff_checkFields hkind,
      halike.checkFields_eq]

/-- Structs of truth values in an array. -/
def flags : Schema :=
  let flag := Schema.ofFields "flag" [("c", .ofKind .boolean)]
  let list := { Schema.ofKind .array with items := some flag }
  .ofFields "flags" [("a", .ofFields "list" [("b", list)]), ("d", .ofKind .string)]

/-- Flags with a text and an array among them, and without the last field. -/
def mixedFlags : List (String × Json) :=
  let flag (value : Json) : Json := .object [("c", value)]
  [("a", .object [("b", .array
    [flag (.bool true), flag (.bool false), flag (.bool true), flag (.string "x"),
      flag (.array [])])])]

theorem ofJson_firstViolation_mixedFlags :
    flags.kind = .struct ∧
      ofJson flags (.object mixedFlags) = .error (.typeMismatch "a.b[3].c" .boolean "string") ∧
      (∃ site, Site.FirstViolation (flags.Checked mixedFlags) site
        (.typeMismatch "a.b[3].c" .boolean "string")) ∧
      ofJson flags (.object (("e", .null) :: mixedFlags)) =
        .error (.typeMismatch "a.b[3].c" .boolean "string") := by
  have hfails : ofJson flags (.object mixedFlags) =
      .error (.typeMismatch "a.b[3].c" .boolean "string") := by rfl
  have halike : flags.Alike (some (.object mixedFlags))
      (some (.object (("e", .null) :: mixedFlags))) := .cons_undeclared rfl (by decide) .null
  obtain ⟨-, herror, hothers⟩ := @ofJson_firstViolation flags rfl mixedFlags
  exact ⟨rfl, hfails, (herror _).1 hfails, (hothers _ halike _).1 hfails⟩

end Struct

end TableFeed
