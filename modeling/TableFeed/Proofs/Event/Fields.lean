import TableFeed.Proofs.Event.Decoding

/-!
# The fields of an event

An event keeps its fields by name and the names in order.  For an event that comes from a
record the two agree (`Event.WellNamed`): every name in order leads to a field with that
name.  `Event.ofRecord_ok` says so, and that all fields of the record's key are among them.
-/

namespace TableFeed

/-! ## Names -/

namespace Event

/-- The names of an event lead to fields with these names. -/
structure WellNamed (event : Event) : Prop where
  /-- A field is found under its own name. -/
  named : ∀ name field, event.field? name = some field → field.name = name
  /-- Every name in order leads to a field. -/
  bound : ∀ name ∈ event.fieldNames, (event.field? name).isSome = true
  /-- The names of the row are names of the event. -/
  nonKey : ∀ name ∈ event.nonKeyNames, name ∈ event.fieldNames

theorem WellNamed.exists_field {event : Event} (h : event.WellNamed) {name : String}
    (hname : name ∈ event.fieldNames) : ∃ field ∈ event.fields, field.name = name := by
  obtain ⟨field, hfield⟩ := Option.isSome_iff_exists.1 (h.bound name hname)
  exact ⟨field, List.mem_filterMap.2 ⟨name, hname, hfield⟩, h.named name field hfield⟩

/-! ## Events of records -/

theorem wellNamed_ofFields (topic : String) (images : Images)
    (rowFields keyFields : List EventField) :
    (ofFields topic images rowFields keyFields).WellNamed where
  named := by
    intro name field hfield
    obtain ⟨other, -, hpair⟩ := List.mem_map.1 (Entries.mem_of_lookup_ofPairs hfield)
    cases hpair
    rfl
  bound := by
    intro name hname
    refine Entries.isSome_lookup_ofPairs ?_
    rw [List.map_map]
    exact hname
  nonKey := by
    intro name hname
    obtain ⟨field, hfield, rfl⟩ := List.mem_map.1 hname
    exact List.mem_map_of_mem (List.mem_append_left _ (List.mem_filter.1 hfield).1)

/-- Every field of the key is a field of the row or an extra one. -/
theorem mem_names_of_keySchema {schema rowSchema : Schema} {name : String}
    (hname : name ∈ schema.fieldNames) :
    name ∈ rowSchema.fieldNames ∨ name ∈ (extraFields (some schema) rowSchema).map Prod.fst := by
  by_cases hrow : name ∈ rowSchema.fieldNames
  · exact .inl hrow
  · right
    obtain ⟨field, hfield, rfl⟩ := List.mem_map.1 hname
    refine List.mem_map_of_mem (List.mem_filter.2 ⟨hfield, ?_⟩)
    simpa using hrow

/-- Only structured records have events. -/
theorem exists_struct_of_ofRecord {registry : Registry} {record : Record} {event : Event}
    (h : ofRecord registry record = .ok event) : ∃ s, record.value = .struct s := by
  have hdecoded := eq_ok_of_mapError h
  unfold decode at hdecoded
  split at hdecoded
  · next s hvalue => exact ⟨s, hvalue⟩
  · cases hdecoded

/-- An event of a record is well named and has all fields of the record's key. -/
theorem ofRecord_ok {registry : Registry} {record : Record} {event : Event}
    (h : ofRecord registry record = .ok event) :
    event.topic = record.topic ∧ event.WellNamed ∧
      ∀ schema, record.keySchema = some schema → ∀ name ∈ schema.fieldNames,
        name ∈ event.fieldNames := by
  have hdecoded := eq_ok_of_mapError h
  unfold decode at hdecoded
  split at hdecoded
  · obtain ⟨images, -, himages⟩ := exists_of_bind_eq_ok hdecoded
    obtain ⟨-, -, rowFields, keyFields, hrow, hkey, rfl⟩ := ofImages_eq_ok_iff.1 himages
    refine ⟨rfl, wellNamed_ofFields _ _ _ _, fun schema hschema name hname => ?_⟩
    rw [fieldNames_ofFields hrow hkey, hschema, List.mem_append]
    exact mem_names_of_keySchema hname
  · cases hdecoded

end Event

end TableFeed
