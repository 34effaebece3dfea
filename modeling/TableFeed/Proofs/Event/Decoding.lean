import TableFeed.Event
import TableFeed.Proofs.Entries
import TableFeed.Proofs.Except

/-!
# Events of records, exactly

`Event.ofRecord` steps through images, kinds and types, and fails at the first step that
does.  `ofRecord_eq_ok_iff` says which events it gives, without the steps: the event of
images (`Event.ofFields`) whose row schema is a struct, with the fields that the registry
resolves.  What an event says of its fields by name and in order is then read off
`Event.ofFields`.
-/

namespace TableFeed

/-! ## Resolved fields -/

namespace EventField

/-- A field as its schema declares it. -/
def declared (field : EventField) : String × Schema :=
  (field.name, field.schema)

/-- A field with the type that the registry finds and the mark that its name gives it. -/
structure Resolved (registry : Registry) (isKey : String → Bool) (field : EventField) : Prop where
  /-- The type is that of the schema. -/
  type : registry.resolve? field.schema = some field.type
  /-- The name tells whether it belongs to the key. -/
  isKey : field.isKey = isKey field.name

end EventField

namespace Event

variable {registry : Registry} {isKey : String → Bool} {topic : String}
  {keySchema : Option Schema}

theorem resolve_eq_ok_iff {field : String × Schema} {resolved : EventField} :
    resolve registry (isKey field.1) field = .ok resolved ↔
      resolved.declared = field ∧ resolved.Resolved registry isKey := by
  obtain ⟨name, schema⟩ := field
  constructor
  · intro h
    unfold resolve at h
    split at h
    · next htype =>
      cases h
      exact ⟨rfl, htype, rfl⟩
    · cases h
  · rintro ⟨hdeclared, htype, hkey⟩
    obtain ⟨name', schema', type, key⟩ := resolved
    cases hdeclared
    simp only at htype hkey
    simp only [resolve, htype, hkey]

/-- The registry resolves fields one by one. -/
theorem resolveAll_eq_ok_iff {fields : List (String × Schema)} {resolved : List EventField} :
    resolveAll registry isKey fields = .ok resolved ↔
      resolved.map EventField.declared = fields ∧
        ∀ field ∈ resolved, field.Resolved registry isKey := by
  unfold resolveAll
  induction fields generalizing resolved with
  | nil =>
    constructor
    · intro h
      cases h
      exact ⟨rfl, nofun⟩
    · rintro ⟨hnil, -⟩
      cases List.map_eq_nil_iff.1 hnil
      rfl
  | cons field rest ih =>
    rw [List.mapM_cons]
    constructor
    · intro h
      obtain ⟨first, hfirst, hnext⟩ := exists_of_bind_eq_ok h
      obtain ⟨others, hothers, hall⟩ := exists_of_bind_eq_ok hnext
      cases hall
      obtain ⟨hdeclared, hresolved⟩ := resolve_eq_ok_iff.1 hfirst
      obtain ⟨hrest, hrestResolved⟩ := ih.1 hothers
      rw [List.map_cons, hdeclared, hrest]
      exact ⟨rfl, List.forall_mem_cons.2 ⟨hresolved, hrestResolved⟩⟩
    · rintro ⟨hmap, hresolved⟩
      obtain ⟨first, others, rfl, hfirst, hothers⟩ := List.map_eq_cons_iff.1 hmap
      obtain ⟨hfirstResolved, hothersResolved⟩ := List.forall_mem_cons.1 hresolved
      rw [resolve_eq_ok_iff.2 ⟨hfirst, hfirstResolved⟩, ih.2 ⟨hothers, hothersResolved⟩]
      rfl

/-- Fields of which each has a type are resolved. -/
theorem exists_resolveAll (isKey : String → Bool) {fields : List (String × Schema)}
    (h : ∀ field ∈ fields, (registry.resolve? field.2).isSome = true) :
    ∃ resolved, resolveAll registry isKey fields = .ok resolved := by
  induction fields with
  | nil => exact ⟨[], rfl⟩
  | cons field rest ih =>
    obtain ⟨hfield, hrest⟩ := List.forall_mem_cons.1 h
    obtain ⟨type, htype⟩ := Option.isSome_iff_exists.1 hfield
    obtain ⟨others, hothers⟩ := ih hrest
    have hresolved := resolveAll_eq_ok_iff.1 hothers
    refine ⟨⟨field.1, field.2, type, isKey field.1⟩ :: others, resolveAll_eq_ok_iff.2 ⟨?_, ?_⟩⟩
    · rw [List.map_cons, hresolved.1]
      rfl
    · exact List.forall_mem_cons.2 ⟨⟨htype, rfl⟩, hresolved.2⟩

/-! ## Events of images -/

/-- Whether the key has a field with a name. -/
def isKeyName (keySchema : Option Schema) (name : String) : Bool :=
  (keyNames keySchema).contains name

/-- The event of images with the fields of the row and the further fields of the key. -/
def ofFields (topic : String) (images : Images) (rowFields keyFields : List EventField) :
    Event where
  topic := topic
  byName := Entries.ofPairs ((rowFields ++ keyFields).map fun field => (field.name, field))
  fieldNames := (rowFields ++ keyFields).map EventField.name
  nonKeyNames := (rowFields.filter fun field => !field.isKey).map EventField.name
  before := images.before
  after := images.after

theorem ofImages_eq_ok_iff {images : Images} {event : Event} :
    ofImages registry topic keySchema images = .ok event ↔
      images.rowSchema.kind = .struct ∧
      (images.before.isSome = true ∨ images.after.isSome = true) ∧
      ∃ rowFields keyFields,
        resolveAll registry (isKeyName keySchema) images.rowSchema.fields = .ok rowFields ∧
        resolveAll registry (fun _ => true) (extraFields keySchema images.rowSchema) =
          .ok keyFields ∧
        event = ofFields topic images rowFields keyFields := by
  have himages : (images.before.isNone = true ∧ images.after.isNone = true) ↔
      ¬ (images.before.isSome = true ∨ images.after.isSome = true) := by
    cases images.before <;> cases images.after <;> simp
  unfold ofImages
  by_cases hkind : images.rowSchema.kind = .struct
  · simp only [hkind, ne_eq, not_true_eq_false, ↓reduceIte, true_and]
    constructor
    · intro h
      obtain ⟨rowFields, hrow, hafterRow⟩ := exists_of_bind_eq_ok h
      obtain ⟨keyFields, hkey, hend⟩ := exists_of_bind_eq_ok hafterRow
      by_cases hsome : images.before.isSome = true ∨ images.after.isSome = true
      · rw [if_neg (fun hnone => himages.1 hnone hsome)] at hend
        cases hend
        exact ⟨hsome, rowFields, keyFields, hrow, hkey, rfl⟩
      · rw [if_pos (himages.2 hsome)] at hend
        cases hend
    · rintro ⟨hsome, rowFields, keyFields, hrow, hkey, rfl⟩
      change (resolveAll registry (isKeyName keySchema) images.rowSchema.fields >>= _) = _
      rw [hrow]
      change (resolveAll registry _ _ >>= _) = _
      rw [hkey]
      simp only [himages, hsome, not_true_eq_false, ↓reduceIte]
      rfl
  · simp only [hkind, ne_eq, not_false_eq_true, ↓reduceIte, false_and, iff_false]
    nofun

/-- The event of a record is that of the images of its structured value. -/
theorem ofRecord_eq_ok_iff {record : Record} {s : Struct} {event : Event}
    (hvalue : record.value = .struct s) :
    ofRecord registry record = .ok event ↔
      ∃ images, Event.images s = .ok images ∧
        ofImages registry record.topic record.keySchema images = .ok event := by
  rw [ofRecord, decode, hvalue]
  constructor
  · intro h
    exact exists_of_bind_eq_ok (eq_ok_of_mapError h)
  · rintro ⟨images, himages, hevent⟩
    simp only [himages]
    change Except.mapError _ (ofImages registry record.topic record.keySchema images) = _
    rw [hevent]
    rfl

/-! ## Fields by name and in order -/

variable {rowSchema : Schema} {rowFields keyFields : List EventField}

theorem map_name_of_declared {fields : List EventField} {pairs : List (String × Schema)}
    (h : fields.map EventField.declared = pairs) :
    fields.map EventField.name = pairs.map Prod.fst := by
  rw [← h, List.map_map]
  rfl

/-- The names that belong to no key, in the order of the row's schema. -/
theorem nonKeyNames_ofFields {images : Images}
    (hrow : resolveAll registry isKey rowSchema.fields = .ok rowFields) :
    (ofFields topic images rowFields keyFields).nonKeyNames =
      rowSchema.fieldNames.filter fun name => !isKey name := by
  obtain ⟨hdeclared, hresolved⟩ := resolveAll_eq_ok_iff.1 hrow
  have hmarks : (rowFields.filter fun field => !field.isKey) =
      rowFields.filter ((fun name => !isKey name) ∘ EventField.name) :=
    List.filter_congr fun field hfield => by rw [(hresolved field hfield).isKey]; rfl
  rw [ofFields, hmarks, ← List.filter_map, map_name_of_declared hdeclared]
  rfl

/-- The names of the row's schema, then those that only the key has. -/
theorem fieldNames_ofFields {images : Images}
    (hrow : resolveAll registry isKey rowSchema.fields = .ok rowFields)
    (hkey : resolveAll registry (fun _ => true) (extraFields keySchema rowSchema) =
      .ok keyFields) :
    (ofFields topic images rowFields keyFields).fieldNames =
      rowSchema.fieldNames ++ (extraFields keySchema rowSchema).map Prod.fst := by
  change (rowFields ++ keyFields).map EventField.name = _
  rw [List.map_append, map_name_of_declared (resolveAll_eq_ok_iff.1 hrow).1,
    map_name_of_declared (resolveAll_eq_ok_iff.1 hkey).1]
  rfl

theorem not_mem_extraFields {name : String} (keySchema : Option Schema)
    (hname : name ∈ rowSchema.fieldNames) :
    name ∉ (extraFields keySchema rowSchema).map Prod.fst := by
  intro hextra
  obtain ⟨field, hfield, rfl⟩ := List.mem_map.1 hextra
  cases keySchema with
  | none => cases hfield
  | some schema =>
    have hnotRow := (List.mem_filter.1 hfield).2
    rw [List.contains_iff_mem.2 hname] at hnotRow
    cases hnotRow

theorem lookup_map_field (fields : List EventField) (name : String) :
    ((fields.map fun field => (field.name, field)).lookup name).map EventField.schema =
      (fields.map EventField.declared).lookup name := by
  induction fields with
  | nil => rfl
  | cons field rest ih =>
    simp only [List.map_cons, EventField.declared, Entries.lookup_cons_ite]
    split
    · rfl
    · exact ih

/-- A name of the row leads to the last of the row's fields that has it, and to none of the key. -/
theorem field?_ofFields_of_mem {images : Images} {name : String}
    (hkey : resolveAll registry (fun _ => true) (extraFields keySchema rowSchema) =
      .ok keyFields) (hname : name ∈ rowSchema.fieldNames) :
    (ofFields topic images rowFields keyFields).field? name =
      (rowFields.reverse.map fun field => (field.name, field)).lookup name := by
  have hnoKey : name ∉ ((keyFields.map fun field => (field.name, field)).reverse).map Prod.fst := by
    rw [List.map_reverse, List.mem_reverse, List.map_map]
    have hextra := not_mem_extraFields keySchema hname
    rwa [← map_name_of_declared (resolveAll_eq_ok_iff.1 hkey).1] at hextra
  rw [field?, ofFields, Entries.lookup_ofPairs, List.map_append, List.reverse_append,
    List.lookup_append, Entries.lookup_eq_none_of_not_mem hnoKey, Option.none_or, List.map_reverse]

/-- A name of the row leads to the last field that the row's schema declares under it. -/
theorem field?_ofFields {images : Images} {name : String}
    (hrow : resolveAll registry isKey rowSchema.fields = .ok rowFields)
    (hkey : resolveAll registry (fun _ => true) (extraFields keySchema rowSchema) =
      .ok keyFields) (hname : name ∈ rowSchema.fieldNames) :
    ((ofFields topic images rowFields keyFields).field? name).map EventField.schema =
      rowSchema.fields.reverse.lookup name := by
  obtain ⟨hdeclared, -⟩ := resolveAll_eq_ok_iff.1 hrow
  rw [field?_ofFields_of_mem hkey hname, ← hdeclared, ← List.map_reverse, lookup_map_field]

/-- A name of the row leads to a field of the row that has it. -/
theorem exists_field?_ofFields {images : Images} {name : String}
    (hrow : resolveAll registry isKey rowSchema.fields = .ok rowFields)
    (hkey : resolveAll registry (fun _ => true) (extraFields keySchema rowSchema) =
      .ok keyFields) (hname : name ∈ rowSchema.fieldNames) :
    ∃ field ∈ rowFields,
      (ofFields topic images rowFields keyFields).field? name = some field ∧ field.name = name := by
  have hkeys : name ∈ (rowFields.reverse.map fun field => (field.name, field)).map Prod.fst := by
    rw [List.map_reverse, List.map_reverse, List.mem_reverse, List.map_map]
    change name ∈ rowFields.map EventField.name
    rw [map_name_of_declared (resolveAll_eq_ok_iff.1 hrow).1]
    exact hname
  obtain ⟨field, hlookup⟩ := Option.isSome_iff_exists.1 (Entries.isSome_lookup_of_mem hkeys)
  obtain ⟨found, hfound, hpair⟩ := List.mem_map.1 (Entries.mem_of_lookup hlookup)
  cases hpair
  exact ⟨field, List.mem_reverse.1 hfound, (field?_ofFields_of_mem hkey hname).trans hlookup, rfl⟩

/-- Every field has the type that the registry finds for its schema. -/
theorem resolve?_of_field? {images : Images} {name : String} {field : EventField}
    (hrow : resolveAll registry isKey rowSchema.fields = .ok rowFields)
    (hkey : resolveAll registry (fun _ => true) (extraFields keySchema rowSchema) =
      .ok keyFields)
    (hfield : (ofFields topic images rowFields keyFields).field? name = some field) :
    registry.resolve? field.schema = some field.type := by
  obtain ⟨found, hfound, hpair⟩ := List.mem_map.1 (Entries.mem_of_lookup_ofPairs hfield)
  cases hpair
  rcases List.mem_append.1 hfound with hmem | hmem
  · exact ((resolveAll_eq_ok_iff.1 hrow).2 _ hmem).type
  · exact ((resolveAll_eq_ok_iff.1 hkey).2 _ hmem).type

end Event

end TableFeed
