import Mathlib.Data.List.Nodup
import TableFeed.Proofs.Event.Fields
import TableFeed.Proofs.Event.Images

/-!
# Every field once

Where neither the schema of the row nor that of the key names a field twice, an event keeps each
field of the two exactly once (`Event.Partitions`): those of the row in their order, then those
that only the key has.  What is found by name, what is listed in order, which fields belong to
the key and which names go into a row are four readings of that one list.

The list is the fields that the registry resolved, so every one of them has a type.  A record
with a field that has none is refused, and the first such field is told
(`ofRecord_partitions`).
-/

namespace TableFeed.Event

variable {registry : Registry} {record : Record} {event : Event} {rowSchema : Schema}
  {keySchema : Option Schema}

/-! ## The row and the key of a record -/

/-- The schema of the row that a record tells of: in an envelope that of its images, else that of
the value itself. -/
def rowSchemaOf? (record : Record) : Option Schema :=
  match record.value with
  | .struct s => if s.schema.nameContains envelopeMarker then rowSchema? s else some s.schema
  | _ => none

/-- The fields of a key. -/
def keyFields (keySchema : Option Schema) : List (String × Schema) :=
  keySchema.elim [] Schema.fields

/-- The fields of a row, then the fields of a key that the row does not carry. -/
def rowThenKey (row key : List (String × Schema)) : List (String × Schema) :=
  row ++ key.filter fun field => field.1 ∉ row.map Prod.fst

/-- The schema of a row and that of a key, if there is one, name no field twice, and the key is a
struct. -/
structure Distinct (keySchema : Option Schema) (rowSchema : Schema) : Prop where
  row : rowSchema.fieldNames.Nodup
  keyKind : ∀ schema, keySchema = some schema → schema.kind = .struct
  key : ∀ schema, keySchema = some schema → schema.fieldNames.Nodup

/-- The images of a record agree with it on the schema of the row. -/
theorem rowSchema_of_images {s : Struct} {images : Images} (hvalue : record.value = .struct s)
    (himages : Event.images s = .ok images) : rowSchemaOf? record = some images.rowSchema := by
  simp only [rowSchemaOf?, hvalue]
  rw [Event.images] at himages
  split
  · next hnamed =>
    rw [if_pos hnamed] at himages
    cases hrow : rowSchema? s with
    | none =>
      change (s.schema.field? "after").or (s.schema.field? "before") = none at hrow
      rw [hrow] at himages
      cases himages
    | some rowSchema =>
      change (s.schema.field? "after").or (s.schema.field? "before") = some rowSchema at hrow
      rw [hrow] at himages
      obtain ⟨before, -, hnext⟩ := exists_of_bind_eq_ok himages
      obtain ⟨after, -, hend⟩ := exists_of_bind_eq_ok hnext
      cases hend
      rfl
  · next hplain =>
    rw [if_neg hplain] at himages
    cases himages
    rfl

theorem extraFields_eq (keySchema : Option Schema) (rowSchema : Schema) :
    extraFields keySchema rowSchema =
      (keyFields keySchema).filter fun field => field.1 ∉ rowSchema.fields.map Prod.fst := by
  cases keySchema with
  | none => rfl
  | some schema =>
    refine List.filter_congr fun field _ => ?_
    rw [List.contains_eq_mem, decide_not]
    rfl

theorem rowThenKey_eq (keySchema : Option Schema) (rowSchema : Schema) :
    rowThenKey rowSchema.fields (keyFields keySchema) =
      rowSchema.fields ++ extraFields keySchema rowSchema := by
  rw [rowThenKey, extraFields_eq]

/-- A key that is a struct has the names of its fields. -/
theorem isKeyName_eq (h : ∀ schema, keySchema = some schema → schema.kind = .struct)
    (name : String) :
    isKeyName keySchema name = decide (name ∈ (keyFields keySchema).map Prod.fst) := by
  rw [isKeyName, List.contains_eq_mem]
  cases keySchema with
  | none => rfl
  | some schema =>
    have hnames : keyNames (some schema) = schema.fieldNames := if_pos (h schema rfl)
    rw [hnames]
    rfl

theorem nodup_rowThenKey (h : Distinct keySchema rowSchema) :
    ((rowThenKey rowSchema.fields (keyFields keySchema)).map Prod.fst).Nodup := by
  rw [rowThenKey, List.map_append]
  have hkey : ((keyFields keySchema).map Prod.fst).Nodup := by
    cases keySchema with
    | none => exact .nil
    | some schema => exact h.key schema rfl
  refine List.nodup_append.2 ⟨h.row, hkey.sublist (List.filter_sublist.map _), ?_⟩
  rintro name hrow _ hextra rfl
  obtain ⟨field, hfield, rfl⟩ := List.mem_map.1 hextra
  exact of_decide_eq_true (List.mem_filter.1 hfield).2 hrow

/-! ## Events with different names -/

section

variable {topic : String} {images : Images} {rowFields keyFields : List EventField}

/-- Where no name comes twice, a name finds the field that has it. -/
theorem field?_ofFields_eq_some_iff (h : ((rowFields ++ keyFields).map EventField.name).Nodup)
    {name : String} {field : EventField} :
    (ofFields topic images rowFields keyFields).field? name = some field ↔
      field ∈ rowFields ++ keyFields ∧ field.name = name := by
  constructor
  · intro hfield
    obtain ⟨found, hfound, hpair⟩ := List.mem_map.1 (Entries.mem_of_lookup_ofPairs hfield)
    cases hpair
    exact ⟨hfound, rfl⟩
  · rintro ⟨hfield, rfl⟩
    have hkeys : (((rowFields ++ keyFields).map fun field => (field.name, field)).reverse.map
        Prod.fst).Nodup := by
      rw [List.map_reverse, List.nodup_reverse, List.map_map]
      exact h
    have hmem := List.mem_reverse.2 (List.mem_map_of_mem (f := fun field : EventField =>
      (field.name, field)) hfield)
    rw [field?, ofFields, Entries.lookup_ofPairs]
    exact Entries.lookup_of_mem hkeys hmem

/-- Where no name comes twice, the fields in order are those that the event was made of. -/
theorem fields_ofFields (h : ((rowFields ++ keyFields).map EventField.name).Nodup) :
    (ofFields topic images rowFields keyFields).fields = rowFields ++ keyFields := by
  have hfound : ∀ field ∈ rowFields ++ keyFields,
      ((ofFields topic images rowFields keyFields).field? ∘ EventField.name) field = some field :=
    fun field hfield => (field?_ofFields_eq_some_iff h).2 ⟨hfield, rfl⟩
  change ((rowFields ++ keyFields).map EventField.name).filterMap _ = _
  rw [List.filterMap_map, List.filterMap_congr hfound, List.filterMap_some]

end

/-- An event keeps each field of a row and a key once. -/
structure Partitions (registry : Registry) (row key : List (String × Schema)) (event : Event) :
    Prop where
  /-- The fields are those of the row in their order, then those of the key that the row does not
  carry in theirs.  So a field of both has the schema of the row. -/
  declared : event.fields.map EventField.declared = rowThenKey row key
  /-- No name comes twice. -/
  nodup : (event.fields.map EventField.name).Nodup
  /-- A name finds the field that has it, and no other name finds anything. -/
  found : ∀ name field, event.field? name = some field ↔ field ∈ event.fields ∧ field.name = name
  /-- The fields of the key are marked, those of the row among them too. -/
  isKey : ∀ field ∈ event.fields, field.isKey = true ↔ field.name ∈ key.map Prod.fst
  /-- The names for a row are those of the row that the key does not have. -/
  nonKeyNames : event.nonKeyNames =
    (row.map Prod.fst).filter fun name => name ∉ key.map Prod.fst
  /-- Every field has the type of its schema. -/
  typed : ∀ field ∈ event.fields, registry.resolve? field.schema = some field.type
  /-- A field of the row is found with the schema that the row has for it, and with its type. -/
  ofRow : ∀ name schema, (name, schema) ∈ row → ∃ field, event.field? name = some field ∧
    field.schema = schema ∧ registry.resolve? schema = some field.type

/-- The event of images has each field of the row and the key once. -/
theorem partitions_ofImages {topic : String} {images : Images}
    (hdistinct : Distinct keySchema images.rowSchema)
    (h : ofImages registry topic keySchema images = .ok event) :
    event.Partitions registry images.rowSchema.fields (keyFields keySchema) := by
  obtain ⟨-, -, rowFields, extra, hrow, hextra, rfl⟩ := ofImages_eq_ok_iff.1 h
  obtain ⟨hrowDeclared, hrowResolved⟩ := resolveAll_eq_ok_iff.1 hrow
  obtain ⟨hextraDeclared, hextraResolved⟩ := resolveAll_eq_ok_iff.1 hextra
  have hdeclared : (rowFields ++ extra).map EventField.declared =
      rowThenKey images.rowSchema.fields (keyFields keySchema) := by
    rw [List.map_append, hrowDeclared, hextraDeclared, rowThenKey_eq]
  have hnames : ((rowFields ++ extra).map EventField.name).Nodup := by
    rw [map_name_of_declared hdeclared]
    exact nodup_rowThenKey hdistinct
  have hfields : (ofFields topic images rowFields extra).fields = rowFields ++ extra :=
    fields_ofFields hnames
  have htyped : ∀ field ∈ rowFields ++ extra,
      registry.resolve? field.schema = some field.type := by
    intro field hfield
    rcases List.mem_append.1 hfield with hmem | hmem
    · exact (hrowResolved field hmem).type
    · exact (hextraResolved field hmem).type
  refine ⟨?_, ?_, ?_, ?_, ?_, ?_, ?_⟩
  · rw [hfields, hdeclared]
  · rwa [hfields]
  · intro name field
    rw [hfields]
    exact field?_ofFields_eq_some_iff hnames
  · rw [hfields]
    intro field hfield
    rcases List.mem_append.1 hfield with hmem | hmem
    · rw [(hrowResolved field hmem).isKey, isKeyName_eq hdistinct.keyKind, decide_eq_true_iff]
    · -- An extra field is one of the key, and it is marked without a look at its name.
      have hdeclaredExtra : field.declared ∈ extraFields keySchema images.rowSchema :=
        hextraDeclared ▸ List.mem_map_of_mem hmem
      rw [extraFields_eq] at hdeclaredExtra
      have hkey := List.mem_map_of_mem (f := Prod.fst) (List.mem_filter.1 hdeclaredExtra).1
      exact iff_of_true (hextraResolved field hmem).isKey hkey
  · rw [nonKeyNames_ofFields hrow]
    refine List.filter_congr fun name _ => ?_
    rw [isKeyName_eq hdistinct.keyKind, decide_not]
  · rwa [hfields]
  · intro name schema hmem
    rw [← hrowDeclared] at hmem
    obtain ⟨field, hfield, hpair⟩ := List.mem_map.1 hmem
    cases hpair
    have hall := List.mem_append_left extra hfield
    exact ⟨field, (field?_ofFields_eq_some_iff hnames).2 ⟨hall, rfl⟩, rfl, htyped field hall⟩

/-! ## Fields without a type -/

/-- The first field that the registry has no type for. -/
def untyped? (registry : Registry) (fields : List (String × Schema)) : Option (String × Schema) :=
  fields.find? fun field => (registry.resolve? field.2).isNone

/-- Fields are refused for the first of them that has no type. -/
theorem resolveAll_of_untyped? (isKey : String → Bool) {fields : List (String × Schema)}
    {field : String × Schema} (h : untyped? registry fields = some field) :
    resolveAll registry isKey fields =
      .error (.unsupportedType field.1 field.2.kind field.2.name) := by
  rw [untyped?] at h
  rw [resolveAll]
  induction fields with
  | nil => cases h
  | cons first rest ih =>
    rw [List.mapM_cons]
    cases htype : registry.resolve? first.2 with
    | none =>
      rw [List.find?_cons_of_pos (by rw [htype]; rfl)] at h
      cases h
      have hrefused : resolve registry (isKey field.1) field =
          .error (.unsupportedType field.1 field.2.kind field.2.name) := by
        rw [resolve, htype]
      rw [hrefused]
      rfl
    | some type =>
      rw [List.find?_cons_of_neg (by rw [htype]; exact Bool.false_ne_true)] at h
      have hresolved : resolve registry (isKey first.1) first =
          .ok ⟨first.1, first.2, type, isKey first.1⟩ := by
        rw [resolve, htype]
      rw [hresolved, ih h]
      rfl

theorem exists_untyped? {fields : List (String × Schema)} {field : String × Schema}
    (hfield : field ∈ fields) (h : registry.resolve? field.2 = none) :
    ∃ first, untyped? registry fields = some first := by
  rw [← Option.isSome_iff_exists, untyped?, List.find?_isSome]
  exact ⟨field, hfield, by rw [h]; rfl⟩

theorem typed_of_untyped? {fields : List (String × Schema)}
    (h : untyped? registry fields = none) :
    ∀ field ∈ fields, (registry.resolve? field.2).isSome = true := by
  intro field hfield
  have hnot := List.find?_eq_none.1 h field hfield
  rwa [Bool.not_eq_true, Option.isNone_eq_false_iff] at hnot

/-- Images whose row is a struct are refused for the first field without a type. -/
theorem ofImages_of_untyped? {topic : String} {images : Images} {field : String × Schema}
    (hkind : images.rowSchema.kind = .struct)
    (h : untyped? registry (rowThenKey images.rowSchema.fields (keyFields keySchema)) =
      some field) :
    ofImages registry topic keySchema images =
      .error (.unsupportedType field.1 field.2.kind field.2.name) := by
  rw [rowThenKey_eq, untyped?, List.find?_append] at h
  change ((untyped? registry images.rowSchema.fields).or (untyped? registry _)) = _ at h
  have hnot : ¬ images.rowSchema.kind ≠ .struct := not_not_intro hkind
  rw [ofImages, if_neg hnot]
  change (resolveAll registry (isKeyName keySchema) images.rowSchema.fields >>= _) = _
  cases hrow : untyped? registry images.rowSchema.fields with
  | some first =>
    rw [hrow] at h
    cases h
    rw [resolveAll_of_untyped? _ hrow]
    rfl
  | none =>
    rw [hrow, Option.none_or] at h
    obtain ⟨rowFields, hrowFields⟩ :=
      exists_resolveAll (isKeyName keySchema) (typed_of_untyped? hrow)
    rw [hrowFields]
    change (resolveAll registry _ _ >>= _) = _
    rw [resolveAll_of_untyped? _ h]
    rfl

/-! ## Events of records -/

/-- An event has each field of the record's row and key once, whichever they are, as long as
neither names a field twice.  A record with a field that has no type is refused, and when its
images could be read it is refused for the first such field. -/
theorem ofRecord_partitions (registry : Registry) (record : Record) :
    (∀ event, ofRecord registry record = .ok event → ∃ rowSchema,
      rowSchemaOf? record = some rowSchema ∧ (Distinct record.keySchema rowSchema →
        event.Partitions registry rowSchema.fields (keyFields record.keySchema))) ∧
    (∀ rowSchema, rowSchemaOf? record = some rowSchema →
      ∀ field ∈ rowThenKey rowSchema.fields (keyFields record.keySchema),
        registry.resolve? field.2 = none → ∃ cause,
          ofRecord registry record = .error (.decode record.topic record.offset cause)) ∧
    ∀ s images, record.value = .struct s → Event.images s = .ok images →
      images.rowSchema.kind = .struct → ∀ field,
        untyped? registry (rowThenKey images.rowSchema.fields (keyFields record.keySchema)) =
          some field →
        ofRecord registry record = .error (.decode record.topic record.offset
          (.unsupportedType field.1 field.2.kind field.2.name)) := by
  have hrefused : ∀ s images, record.value = .struct s → Event.images s = .ok images →
      images.rowSchema.kind = .struct → ∀ field,
        untyped? registry (rowThenKey images.rowSchema.fields (keyFields record.keySchema)) =
          some field →
        ofRecord registry record = .error (.decode record.topic record.offset
          (.unsupportedType field.1 field.2.kind field.2.name)) := by
    intro s images hvalue himages hkind field hfield
    rw [ofRecord, decode, hvalue]
    simp only [himages]
    change (ofImages registry record.topic record.keySchema images).mapError _ = _
    rw [ofImages_of_untyped? hkind hfield]
    rfl
  refine ⟨?_, ?_, hrefused⟩
  · intro event hevent
    obtain ⟨s, hvalue⟩ := exists_struct_of_ofRecord hevent
    obtain ⟨images, himages, hmade⟩ := (ofRecord_eq_ok_iff hvalue).1 hevent
    exact ⟨images.rowSchema, rowSchema_of_images hvalue himages, fun hdistinct =>
      partitions_ofImages hdistinct hmade⟩
  · intro rowSchema hrow field hfield hnone
    cases hdecoded : decode registry record with
    | error cause => exact ⟨cause, by rw [ofRecord, hdecoded]; rfl⟩
    | ok event =>
      -- An event that was made contradicts the refusal.
      have hevent : ofRecord registry record = .ok event := by rw [ofRecord, hdecoded]; rfl
      obtain ⟨s, hvalue⟩ := exists_struct_of_ofRecord hevent
      obtain ⟨images, himages, hmade⟩ := (ofRecord_eq_ok_iff hvalue).1 hevent
      cases hrow.symm.trans (rowSchema_of_images hvalue himages)
      obtain ⟨first, hfirst⟩ := exists_untyped? hfield hnone
      have herror := hrefused s images hvalue himages (ofImages_eq_ok_iff.1 hmade).1 first hfirst
      cases herror.symm.trans hevent

/-- An envelope of an insertion: the image after is there and the one before is null. -/
def insertion : Struct :=
  ⟨plainEnvelope [beforeField, afterField],
    [(afterField, .object [("id", .string "1")]), (beforeField, .null)]⟩

/-- The key of a row that has one field of it, as a text, and lacks the other. -/
def tenantKey : Schema :=
  .ofFields "key" [("tenant", .ofKind .string), ("id", .ofKind .int32)]

/-- A record with a key and a value. -/
def keyedRecord (key : Schema) (s : Struct) : Record :=
  (Record.ofValue "t" 0 0 (some s.schema) (.struct s)).withKey (some key) .null

/-- A row with a struct in it that no logical type tells how to write. -/
def nestedRow : Struct :=
  ⟨.ofFields "row" [("id", .ofKind .string), ("inner", (Schema.ofFields "inner" []).asOptional)],
    [("id", .string "1")]⟩

/-- The field of the row and the key comes once, at its place in the row, with the schema of the row
and marked as one of the key. -/
theorem ofRecord_partitions_tenant :
    (∃ event, ofRecord .builtin (keyedRecord tenantKey insertion) = .ok event ∧
      event.fields.map EventField.name = ["id", "name", "tenant"] ∧
      event.nonKeyNames = ["name"] ∧
      ∃ field, event.field? "id" = some field ∧ field.schema.kind = .string ∧
        field.isKey = true) ∧
    ofRecord .builtin (keyedRecord tenantKey nestedRow) =
      .error (.decode "t" 0 (.unsupportedType "inner" .struct (some "inner"))) := by
  constructor
  · obtain ⟨event, hevent⟩ : ∃ event,
        ofRecord .builtin (keyedRecord tenantKey insertion) = .ok event := ⟨_, rfl⟩
    obtain ⟨rowSchema, hrow, hpartitions⟩ :=
      (ofRecord_partitions .builtin (keyedRecord tenantKey insertion)).1 event hevent
    cases hrow
    have hdistinct : Distinct (some tenantKey) plainRow := by
      refine ⟨by decide, ?_, ?_⟩
      · rintro schema ⟨⟩
        rfl
      · rintro schema ⟨⟩
        decide
    have hparts := hpartitions hdistinct
    obtain ⟨field, hfield, hschema, -⟩ := hparts.ofRow "id" (.ofKind .string) List.mem_cons_self
    obtain ⟨hmem, hname⟩ := (hparts.found "id" field).1 hfield
    refine ⟨event, hevent, map_name_of_declared hparts.declared, hparts.nonKeyNames, field, hfield,
      by rw [hschema]; rfl, (hparts.isKey field hmem).2 ?_⟩
    rw [hname]
    decide
  · exact (ofRecord_partitions .builtin (keyedRecord tenantKey nestedRow)).2.2 nestedRow _ rfl rfl
      rfl ("inner", _) rfl

end TableFeed.Event
