import Mathlib.Logic.Relation
import TableFeed.Proofs.Event.Images
import TableFeed.Proofs.Schema.Violation

/-!
# Reading what was checked

A struct is checked once, when it is made.  Reading a struct field of it checks the part again,
against the schema of the field alone.  The part passes that check (`Struct.Made.reads`), and so by
induction does all that can be reached by such reads (`Struct.Made.reaches`).

Of such structs every read gives what the schema promises (`Struct.Covered`).  A default that is
null would break the promise of `get?`, so the schema must have none.  Of fields with one name the
reads see the first, although the check has looked at all of them.
-/

namespace TableFeed

/-! ## Defaults -/

namespace Schema

/-- A schema is that of a declared field of another. -/
def FieldOf (outer field : Schema) : Prop :=
  ∃ name, (name, field) ∈ outer.fields

/-- No field has a default that is null, at any depth. -/
def NoNullDefaults (s : Schema) : Prop :=
  ∀ field, Relation.TransGen FieldOf s field → field.defaultValue ≠ some .null

variable {s : Schema}

theorem NoNullDefaults.of_mem {name : String} {field : Schema} (h : s.NoNullDefaults)
    (hmem : (name, field) ∈ s.fields) : field.NoNullDefaults :=
  fun inner hinner => h inner (.head ⟨name, hmem⟩ hinner)

theorem noNullDefaults_iff : s.NoNullDefaults ↔
    ∀ field ∈ s.fields, field.2.defaultValue ≠ some .null ∧ field.2.NoNullDefaults := by
  constructor
  · intro h field hmem
    exact ⟨h field.2 (.single ⟨field.1, hmem⟩), h.of_mem hmem⟩
  · intro h field hfield
    obtain ⟨first, ⟨name, hmem⟩, hbelow⟩ := Relation.TransGen.head'_iff.1 hfield
    rcases Relation.reflTransGen_iff_eq_or_transGen.1 hbelow with rfl | hbelow
    · exact (h _ hmem).1
    · exact (h _ hmem).2 field hbelow

end Schema

namespace Struct

variable {s t : Struct}

/-! ## Structs in structs -/

/-- A struct is made of a payload, and its schema has no defaults that are null. -/
structure Made (s : Struct) : Prop where
  /-- It passed the check. -/
  passed : ∃ payload, ofJson s.schema payload = .ok s
  /-- Its schema has no defaults that are null. -/
  defaults : s.schema.NoNullDefaults

/-- A read of one struct gives another. -/
def Reads (s t : Struct) : Prop :=
  ∃ name, s.getStruct? name = .ok (some t)

/-- Reads one after another lead from one struct to another. -/
def Reaches : Struct → Struct → Prop :=
  Relation.ReflTransGen Reads

theorem Made.reads (h : s.Made) (hread : s.Reads t) : t.Made := by
  obtain ⟨name, hread⟩ := hread
  rw [getStruct?] at hread
  split at hread
  · cases hread
  next field hfield =>
  split at hread
  · cases hread
  next value hvalue =>
  obtain ⟨part, hmade, hpart⟩ := map_eq_ok_iff.1 hread
  cases hpart
  obtain ⟨-, _, -, -, rfl⟩ := ofJson_eq_ok_iff.1 hmade
  exact ⟨⟨value, hmade⟩, h.defaults.of_mem (Entries.mem_of_lookup hfield)⟩

theorem Made.reaches (h : s.Made) (hreaches : s.Reaches t) : t.Made := by
  induction hreaches with
  | refl => exact h
  | tail _ hread ih => exact ih.reads hread

/-! ## Fields of structs -/

/-- A struct declares a field of struct kind. -/
def DeclaresStruct (s : Struct) (name : String) : Prop :=
  ∃ field, s.schema.field? name = some field ∧ field.kind = .struct

/-- Reads of a struct give what its schema promises. -/
structure Covered (s : Struct) : Prop where
  /-- The read of a declared field of struct kind succeeds. -/
  getStruct : ∀ name, s.DeclaresStruct name → ∃ image, s.getStruct? name = .ok image
  /-- A declared field that is not optional is not null. -/
  get : ∀ name field, s.schema.field? name = some field → field.optional = false →
    ∃ value, s.get? name = some value ∧ value ≠ .null
  /-- What arrived in a declared field is null or of a kind that its schema takes. -/
  raw : ∀ name field, (name, field) ∈ s.schema.fields →
    ∃ value, s.raw? name = some value ∧ (value = .null ∨ field.kind.Takes value)

/-- What stands in a declared field of a checked struct conforms to the schema of the field. -/
theorem Made.conforms (h : s.Made) {name : String} {field : Schema}
    (hmem : (name, field) ∈ s.schema.fields) :
    ∃ index, Site.Conforms ⟨[index], name, s.members.lookup name, field⟩ := by
  obtain ⟨payload, hmade⟩ := h.passed
  obtain ⟨hkind, members, rfl, -, hmembers⟩ := ofJson_eq_ok_iff.1 hmade
  obtain rfl : s.members = members := congrArg Struct.members hmembers
  obtain ⟨index, hdeclared⟩ := List.getElem?_of_mem hmem
  have hchecked := (ofJson_eq_ok_iff_checkFields hkind).1 ⟨s, hmade⟩
  have hall := (s.schema.judges_checkFields s.members).ok_iff.1 hchecked
  exact ⟨index, hall _ ⟨index, _, ⟨_, hdeclared, rfl⟩, .refl⟩⟩

theorem Made.get (h : s.Made) {name : String} {field : Schema}
    (hfield : s.schema.field? name = some field) (hrequired : field.optional = false) :
    ∃ value, s.get? name = some value ∧ value ≠ .null := by
  have hmem := Entries.mem_of_lookup hfield
  obtain ⟨index, hconforms⟩ := h.conforms hmem
  rw [get?, hfield, Option.map_some]
  cases hconforms with
  | missing habsent hallowed =>
    -- Only the default can have let the missing value pass, and it is not null.
    have hsome := hallowed.resolve_left (ne_true_of_eq_false hrequired)
    obtain ⟨default, hdefault⟩ := Option.ne_none_iff_exists'.1 hsome
    have hne := (Schema.noNullDefaults_iff.1 h.defaults _ hmem).1
    rw [Site.absent_iff.1 habsent, hdefault]
    exact ⟨default, rfl, fun hnull => hne (hdefault.trans (congrArg some hnull))⟩
  | present value hfound htakes =>
    have hne : value ≠ .null := fun hnull => Kind.not_takes_null (hnull ▸ htakes)
    rw [Json.present?_eq_some_iff.2 ⟨hfound, hne⟩]
    exact ⟨value, rfl, hne⟩

theorem Made.raw (h : s.Made) {name : String} {field : Schema}
    (hmem : (name, field) ∈ s.schema.fields) :
    ∃ value, s.raw? name = some value ∧ (value = .null ∨ field.kind.Takes value) := by
  have hnames : name ∈ s.schema.fields.map Prod.fst := List.mem_map_of_mem hmem
  obtain ⟨first, hfirst⟩ := Option.isSome_iff_exists.1 (Entries.isSome_lookup_of_mem hnames)
  rw [raw?, Schema.field?, hfirst]
  refine ⟨_, rfl, ?_⟩
  obtain ⟨index, hconforms⟩ := h.conforms hmem
  cases hconforms with
  | missing habsent _ => exact .inl (Json.present?_eq_none_iff.1 (Site.absent_iff.1 habsent))
  | present value hfound htakes =>
    obtain rfl : Json.orNull (s.members.lookup name) = value := by
      rw [show s.members.lookup name = some value from hfound]
      rfl
    exact .inr htakes

theorem Made.covered (h : s.Made) : s.Covered where
  getStruct := by
    rintro name ⟨field, hfield, hkind⟩
    obtain ⟨payload, hmade⟩ := h.passed
    obtain ⟨image, himage, -, -⟩ := getStruct?_eq_ok hmade hfield hkind
    exact ⟨image, himage⟩
  get _ _ := h.get
  raw _ _ := h.raw

end Struct

/-! ## Images of events -/

namespace Event

variable {registry : Registry} {record : Record} {s : Struct}

theorem exists_images_of_covered (h : s.Covered) (hbefore : s.DeclaresStruct beforeField)
    (hafter : s.DeclaresStruct afterField) : ∃ found, images s = .ok found := by
  by_cases hnamed : s.schema.nameContains envelopeMarker = true
  · obtain ⟨before, hgetBefore⟩ := h.getStruct _ hbefore
    obtain ⟨after, hgetAfter⟩ := h.getStruct _ hafter
    obtain ⟨rowSchema, hfield, -⟩ := hafter
    have hrow : rowSchema? s = some rowSchema := by
      rw [rowSchema?, hfield]
      rfl
    refine ⟨⟨before, after, rowSchema⟩, ?_⟩
    rw [images_of_envelope hnamed hrow, hgetBefore, hgetAfter]
    rfl
  · exact ⟨_, if_neg hnamed⟩

theorem resolveAll_ne_image {isKey : String → Bool} (fields : List (String × Schema))
    (error : SchemaError) : resolveAll registry isKey fields ≠ .error (.image error) := by
  intro h
  obtain ⟨field, -, hfield⟩ := exists_of_mapM_eq_error h
  unfold resolve at hfield
  split at hfield
  · cases hfield
  · cases hfield

theorem ofImages_ne_image (topic : String) (keySchema : Option Schema) (found : Images)
    (error : SchemaError) :
    ofImages registry topic keySchema found ≠ .error (.image error) := by
  intro h
  unfold ofImages at h
  by_cases hkind : found.rowSchema.kind = .struct
  · simp only [hkind, ne_eq, not_true_eq_false, ↓reduceIte] at h
    rcases bind_eq_error h with hrow | ⟨rowFields, -, h⟩
    · exact resolveAll_ne_image _ error hrow
    rcases bind_eq_error h with hkey | ⟨keyFields, -, h⟩
    · exact resolveAll_ne_image _ error hkey
    by_cases hnone : found.before.isNone = true ∧ found.after.isNone = true
    · rw [if_pos hnone] at h
      cases h
    · rw [if_neg hnone] at h
      cases h
  · simp only [hkind, ne_eq, not_false_eq_true, ↓reduceIte] at h
    cases h

/-- When the images can be read, no error is about an image. -/
theorem ofRecord_ne_image (hvalue : record.value = .struct s) {found : Images}
    (hfound : images s = .ok found) (topic : String) (offset : Int64) (error : SchemaError) :
    ofRecord registry record ≠ .error (.decode topic offset (.image error)) := by
  intro h
  have hdecode : decode registry record =
      ofImages registry record.topic record.keySchema found := by
    rw [decode, hvalue]
    simp only [hfound]
    rfl
  rw [ofRecord, hdecode] at h
  cases himages : ofImages registry record.topic record.keySchema found with
  | ok event =>
    rw [himages] at h
    cases h
  | error cause =>
    rw [himages] at h
    cases h
    exact ofImages_ne_image _ _ _ _ himages

end Event

/-- Of a struct that was checked, and of all that reads of its fields lead to, every read gives what
the schema promises.  So the images of an envelope can be read when both are declared as structs. -/
theorem Struct.reaches_covered {schema : Schema} {payload : Json} {s t : Struct}
    (hmade : Struct.ofJson schema payload = .ok s) (hdefaults : schema.NoNullDefaults)
    (hreaches : s.Reaches t) :
    t.Covered ∧
      (t.DeclaresStruct Event.beforeField → t.DeclaresStruct Event.afterField →
        (∃ found, Event.images t = .ok found) ∧
          ∀ registry record, record.value = .struct t → ∀ topic offset error,
            Event.ofRecord registry record ≠ .error (.decode topic offset (.image error))) := by
  obtain ⟨-, members, -, -, rfl⟩ := ofJson_eq_ok_iff.1 hmade
  have hcovered : t.Covered := (Made.reaches ⟨⟨payload, hmade⟩, hdefaults⟩ hreaches).covered
  refine ⟨hcovered, fun hbefore hafter => ?_⟩
  obtain ⟨found, hfound⟩ := Event.exists_images_of_covered hcovered hbefore hafter
  exact ⟨⟨found, hfound⟩, fun _ _ hvalue => Event.ofRecord_ne_image hvalue hfound⟩

/-- A place. -/
def place : Struct :=
  ⟨.ofFields "place" [("city", .ofKind .string)], [("city", .string "x")]⟩

/-- A row with a place, which does not give the size that has a default. -/
def placedRow : Struct :=
  let size := (Schema.ofKind .string).withDefault (.string "s")
  ⟨(Schema.ofFields "row" [("size", size), ("place", place.schema)]).asOptional,
    [("place", .object place.members)]⟩

/-- A change of which the row is the image after. -/
def placing : Struct :=
  ⟨.ofFields "rows.Envelope" [(Event.beforeField, placedRow.schema),
    (Event.afterField, placedRow.schema)], [(Event.afterField, .object placedRow.members)]⟩

theorem noNullDefaults_placing : placing.schema.NoNullDefaults := by
  have hkind : ∀ kind, (Schema.ofKind kind).NoNullDefaults :=
    fun _ => Schema.noNullDefaults_iff.2 nofun
  have hplace : place.schema.NoNullDefaults :=
    Schema.noNullDefaults_iff.2 (List.forall_mem_singleton.2 ⟨nofun, hkind .string⟩)
  have hsize : ((Schema.ofKind .string).withDefault (.string "s")).NoNullDefaults :=
    Schema.noNullDefaults_iff.2 nofun
  have hrow : placedRow.schema.NoNullDefaults :=
    Schema.noNullDefaults_iff.2 (List.forall_mem_cons.2
      ⟨⟨nofun, hsize⟩, List.forall_mem_singleton.2 ⟨nofun, hplace⟩⟩)
  exact Schema.noNullDefaults_iff.2 (List.forall_mem_cons.2
    ⟨⟨nofun, hrow⟩, List.forall_mem_singleton.2 ⟨nofun, hrow⟩⟩)

theorem Struct.reaches_covered_placing :
    Struct.ofJson placing.schema (.object placing.members) = .ok placing ∧
      (∃ found, Event.images placing = .ok found) ∧
      placing.Reads placedRow ∧ placedRow.raw? "size" = some .null ∧
      (∃ value, placedRow.get? "size" = some value ∧ value ≠ .null) ∧
      placedRow.Reads place ∧ place.Covered := by
  have hmade : Struct.ofJson placing.schema (.object placing.members) = .ok placing := rfl
  have hdefaults := noNullDefaults_placing
  have hrow : placing.Reads placedRow := ⟨Event.afterField, rfl⟩
  have hplace : placedRow.Reads place := ⟨"place", rfl⟩
  refine ⟨hmade, ?_, hrow, rfl, ?_, hplace, ?_⟩
  · exact ((Struct.reaches_covered hmade hdefaults .refl).2 ⟨_, rfl, rfl⟩ ⟨_, rfl, rfl⟩).1
  · exact (Struct.reaches_covered hmade hdefaults (.single hrow)).1.get "size" _ rfl rfl
  · exact (Struct.reaches_covered hmade hdefaults (.tail (.single hrow) hplace)).1

end TableFeed
