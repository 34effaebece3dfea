import TableFeed.Proofs.Connector.Reach
import TableFeed.Proofs.Delivery.Content
import TableFeed.Proofs.Event.Partition

/-!
# Why a row is refused

Three things can keep an event from its row: it has no image to make it of, a name for the row has
no field, or the value of a field cannot be converted.  The event of a record has an image and a
field for each of these names (`Event.ofRecord_rowReady`), whichever names its schemas repeat and
whatever its key is.  So the first two never happen.

The third happens at the first field whose value its type does not take
(`Connector.FirstUnconverted`), and that is the only error about a record once the columns of its
table were ensured (`Connector.transform_decode_iff`).
-/

namespace TableFeed

/-! ## Events that are ready for their row -/

/-- A field that the row of a record is made of: one of the row's schema that belongs to no key.  Of
those with one name it is the last. -/
structure EventField.OfRow (registry : Registry) (record : Record) (field : EventField) : Prop where
  /-- The schema of the row declares it. -/
  declared : ∃ rowSchema, Event.rowSchemaOf? record = some rowSchema ∧
    rowSchema.fields.reverse.lookup field.name = some field.schema
  /-- Its type is that of its schema. -/
  type : registry.resolve? field.schema = some field.type
  /-- No field of the key has its name. -/
  notKey : field.name ∉ Event.keyNames record.keySchema
  /-- It is not marked as one of the key. -/
  isKey : field.isKey = false

namespace Event

variable {registry : Registry} {record : Record} {event : Event}

/-- An event has what the row of a record needs: an image, and a field for every name. -/
structure RowReady (registry : Registry) (record : Record) (event : Event) : Prop where
  /-- The row is there before or after the change. -/
  image : event.before.isSome = true ∨ event.after.isSome = true
  /-- Every name for the row leads to a field of the row that has it. -/
  field : ∀ name ∈ event.nonKeyNames, ∃ field, event.field? name = some field ∧
    field.name = name ∧ field.OfRow registry record

theorem ofRecord_rowReady (h : ofRecord registry record = .ok event) :
    event.RowReady registry record := by
  obtain ⟨s, hvalue⟩ := exists_struct_of_ofRecord h
  obtain ⟨images, himages, hmade⟩ := (ofRecord_eq_ok_iff hvalue).1 h
  obtain ⟨-, hsome, rowFields, keyFields, hrow, hkey, rfl⟩ := ofImages_eq_ok_iff.1 hmade
  refine ⟨hsome, fun name hname => ?_⟩
  rw [nonKeyNames_ofFields hrow, List.mem_filter, Bool.not_eq_true'] at hname
  obtain ⟨hdeclared, hnotKey⟩ := hname
  obtain ⟨field, hfield, hfound, rfl⟩ := exists_field?_ofFields hrow hkey hdeclared
  have hresolved := (resolveAll_eq_ok_iff.1 hrow).2 field hfield
  have hschema := congrArg (Option.map EventField.schema) hfound
  rw [field?_ofFields hrow hkey hdeclared] at hschema
  refine ⟨field, hfound, rfl, ?_⟩
  exact {
    declared := ⟨images.rowSchema, rowSchema_of_images hvalue himages, hschema⟩
    type := hresolved.type
    notKey := fun hmem => by
      rw [isKeyName, List.contains_iff_mem.2 hmem] at hnotKey
      cases hnotKey
    isKey := hresolved.isKey.trans hnotKey }

end Event

namespace Connector

variable {c : Connector} {record : Record} {d d' : Destination} {event : Event} {image : Struct}
  {field : EventField} {error : TypeError} {cause : DecodeCause} {sign : DeleteSign}

/-! ## Rows that are refused -/

theorem exists_rowImage (h : event.before.isSome = true ∨ event.after.isSome = true) :
    ∃ image, rowImage event = .ok image := by
  unfold rowImage Event.isDelete
  cases hafter : event.after with
  | some after => simp
  | none =>
    rw [hafter] at h
    obtain ⟨before, hbefore⟩ := Option.isSome_iff_exists.1 (h.resolve_right nofun)
    simp [hbefore]

/-- The field is the first that some names lead to whose value its type does not take. -/
inductive FirstUnconverted (event : Event) (image : Struct) (field : EventField)
    (error : TypeError) : List String → Prop where
  | here {name : String} {names : List String} : event.field? name = some field →
      field.type.convert field.schema (rawValue image field) = .error error →
      FirstUnconverted event image field error (name :: names)
  | later {name : String} {names : List String} {other : EventField} {converted : Json} :
      event.field? name = some other →
      other.type.convert other.schema (rawValue image other) = .ok converted →
      FirstUnconverted event image field error names →
      FirstUnconverted event image field error (name :: names)

theorem FirstUnconverted.exists_name {names : List String}
    (h : FirstUnconverted event image field error names) :
    ∃ name ∈ names, event.field? name = some field := by
  induction h with
  | here hfield _ => exact ⟨_, List.mem_cons_self, hfield⟩
  | later _ _ _ ih =>
    obtain ⟨name, hname, hfield⟩ := ih
    exact ⟨name, List.mem_cons_of_mem _ hname, hfield⟩

/-- Where every name has a field, the members of a row fail at the first value that is not
converted, whatever members are done. -/
theorem rowMembers_eq_error_iff {names : List String} {done : List (String × Json)}
    (hfields : ∀ name ∈ names, ∃ field, event.field? name = some field) :
    rowMembers event image names done = .error cause ↔
      ∃ field error, cause = .conversion field.name error ∧
        FirstUnconverted event image field error names := by
  induction names generalizing done with
  | nil =>
    constructor
    · nofun
    · rintro ⟨_, _, _, hfirst⟩
      cases hfirst
  | cons name rest ih =>
    obtain ⟨⟨first, hfirst⟩, hrest⟩ := List.forall_mem_cons.1 hfields
    simp only [rowMembers, hfirst, rowValue]
    cases hconvert : first.type.convert first.schema (rawValue image first) with
    | error error =>
      constructor
      · rintro ⟨⟩
        exact ⟨first, error, rfl, .here hfirst hconvert⟩
      · rintro ⟨field, error', rfl, hunconverted⟩
        cases hunconverted with
        | here hfield hfails =>
          cases hfirst.symm.trans hfield
          cases hconvert.symm.trans hfails
          rfl
        | later hother hconverted _ =>
          cases hfirst.symm.trans hother
          cases hconvert.symm.trans hconverted
    | ok converted =>
      change rowMembers event image rest _ = .error cause ↔ _
      rw [ih hrest]
      constructor
      · rintro ⟨field, error, hcause, hlater⟩
        exact ⟨field, error, hcause, .later hfirst hconvert hlater⟩
      · rintro ⟨field, error, hcause, hunconverted⟩
        cases hunconverted with
        | here hfield hfails =>
          cases hfirst.symm.trans hfield
          cases hconvert.symm.trans hfails
        | later _ _ hlater => exact ⟨field, error, hcause, hlater⟩

/-- A row is refused exactly when its members are. -/
theorem row_eq_error_iff (himage : rowImage event = .ok image) :
    row sign event = .error cause ↔
      rowMembers event image event.nonKeyNames [] = .error cause := by
  rw [row, himage]
  change (rowMembers event image event.nonKeyNames [] >>= _) = .error cause ↔ _
  cases rowMembers event image event.nonKeyNames [] with
  | error cause' => exact Iff.rfl
  | ok members => exact ⟨nofun, nofun⟩

/-! ## Records that are refused -/

theorem map_rowText_eq_error_iff {failure : TransformError} :
    (c.rowText record event).map some = .error failure ↔
      ∃ cause, row c.config.deleteSign event = .error cause ∧
        failure = .decode record.topic record.offset cause := by
  rw [rowText]
  cases row c.config.deleteSign event with
  | error cause => simp [Except.map, eq_comm]
  | ok members => simp [Except.map]

/-- What refuses a record with an event before its columns are ensured is its category or its
table. -/
theorem eventAndTable_ne_decode {topic : String} {offset : Int64}
    (hevent : Event.ofRecord c.registry record = .ok event) :
    c.eventAndTable record ≠ .error (.decode topic offset cause) := by
  intro h
  rw [eventAndTable] at h
  split at h
  · cases h
  · rw [hevent] at h
    change ((c.config.tableFor event.topic).mapError _ >>= _) = _ at h
    cases htable : c.config.tableFor event.topic with
    | error error =>
      rw [htable] at h
      cases h
    | ok table =>
      rw [htable] at h
      cases h

theorem transform_ne_decode {topic : String} {offset : Int64}
    (hevent : Event.ofRecord c.registry record = .ok event)
    (h : ∀ event table, ¬ c.TakesEvent record event table) :
    (c.transform record d).1 ≠ .error (.decode topic offset cause) := by
  intro hdecode
  obtain ⟨s, hstruct⟩ := Event.exists_struct_of_ofRecord hevent
  cases hmode : c.config.mode with
  | normal =>
    -- Plain JSON fails with an error of its own.
    have hplain : (c.transform record d).1 =
        (s.text.mapError (.dataFormat record.topic)).map some := by
      simp [transform, Record.isTombstone, RecordValue.isNull, transformPlain, hstruct, hmode]
    rw [hplain] at hdecode
    cases htext : s.text with
    | error error =>
      rw [htext] at hdecode
      cases hdecode
    | ok text =>
      rw [htext] at hdecode
      cases hdecode
  | changeEvents =>
    rw [transform_struct hmode hstruct] at hdecode
    rcases hfound : c.eventAndTable record with failure | ⟨taken, table⟩
    · rw [transformEvent_of_error hfound] at hdecode
      cases hdecode
      exact eventAndTable_ne_decode hevent hfound
    · exact h taken table (takesEvent_of_eventAndTable hmode hfound)

/-- A record with an event cannot be taken apart just when the columns were ensured for the event
and its row is refused. -/
theorem transform_eq_decode_iff {topic : String} {offset : Int64}
    (hevent : Event.ofRecord c.registry record = .ok event) :
    c.transform record d = (.error (.decode topic offset cause), d') ↔
      (topic = record.topic ∧ offset = record.offset) ∧
      (∃ table snapshot, c.TakesEvent record event table ∧
        d.ensureColumns c.config.database c.config.evolution table event = (.ok snapshot, d')) ∧
      row c.config.deleteSign event = .error cause := by
  by_cases htakes : ∃ table, c.TakesEvent record event table
  · -- The columns are ensured first, and where that fails the error is about the table.
    obtain ⟨table, htakes⟩ := htakes
    rw [htakes.isEvent d]
    rcases hensured : d.ensureColumns c.config.database c.config.evolution table event
      with ⟨failure | snapshot, after⟩
    · constructor
      · intro h
        cases h
        cases (Destination.outcome_of_ensureColumns hensured).tableError
      · rintro ⟨-, ⟨other, snapshot, hother, hsucceeded⟩, -⟩
        cases htakes.table.symm.trans hother.table
        cases hensured.symm.trans hsucceeded
    · change ((c.rowText record event).map some, after) = _ ↔ _
      rw [Prod.mk.injEq, map_rowText_eq_error_iff]
      constructor
      · rintro ⟨⟨cause, hrow, hdecode⟩, rfl⟩
        cases hdecode
        exact ⟨⟨rfl, rfl⟩, ⟨table, snapshot, htakes, hensured⟩, hrow⟩
      · rintro ⟨⟨rfl, rfl⟩, ⟨other, _, hother, hsucceeded⟩, hrow⟩
        cases htakes.table.symm.trans hother.table
        cases hensured.symm.trans hsucceeded
        exact ⟨⟨cause, hrow, rfl⟩, rfl⟩
  · constructor
    · intro h
      refine absurd (congrArg Prod.fst h) (transform_ne_decode hevent fun taken table htaken => ?_)
      cases hevent.symm.trans htaken.event
      exact htakes ⟨table, htaken⟩
    · rintro ⟨-, ⟨table, -, htaken, -⟩, -⟩
      exact absurd ⟨table, htaken⟩ htakes

/-- Once a record has an event, its row has an image, and every name for the row has a field,
whatever the image.  So in one case only the record cannot be taken apart after the columns were
ensured: a field, of the row's schema and not of the key, is the first whose value its type does not
take.  The error names that field. -/
theorem transform_decode_iff {c : Connector} {record : Record} {event : Event}
    (hevent : Event.ofRecord c.registry record = .ok event) :
    ∃ image, rowImage event = .ok image ∧
      (if event.isDelete then event.before else event.after) = some image ∧
      (∀ other done name,
        rowMembers event other event.nonKeyNames done ≠ .error (.unknownField name)) ∧
      ∀ d d' topic offset cause, c.transform record d = (.error (.decode topic offset cause), d') ↔
        (topic = record.topic ∧ offset = record.offset) ∧
        (∃ table snapshot, c.TakesEvent record event table ∧
          d.ensureColumns c.config.database c.config.evolution table event = (.ok snapshot, d')) ∧
        ∃ field error, cause = .conversion field.name error ∧ field.OfRow c.registry record ∧
          FirstUnconverted event image field error event.nonKeyNames := by
  have hready := Event.ofRecord_rowReady hevent
  have hfields : ∀ name ∈ event.nonKeyNames, ∃ field, event.field? name = some field := by
    intro name hname
    obtain ⟨field, hfield, -, -⟩ := hready.field name hname
    exact ⟨field, hfield⟩
  obtain ⟨image, himage⟩ := exists_rowImage hready.image
  refine ⟨image, himage, rowImage_eq himage, ?_, ?_⟩
  · intro other done name hunknown
    obtain ⟨_, _, hcause, -⟩ := (rowMembers_eq_error_iff hfields).1 hunknown
    cases hcause
  · intro d d' topic offset cause
    rw [transform_eq_decode_iff hevent, row_eq_error_iff himage, rowMembers_eq_error_iff hfields]
    refine and_congr_right fun _ => and_congr_right fun _ => ?_
    constructor
    · rintro ⟨field, error, hcause, hfirst⟩
      obtain ⟨name, hname, hfield⟩ := hfirst.exists_name
      obtain ⟨found, hfound, -, hofRow⟩ := hready.field name hname
      cases hfield.symm.trans hfound
      exact ⟨field, error, hcause, hofRow, hfirst⟩
    · rintro ⟨field, error, hcause, -, hfirst⟩
      exact ⟨field, error, hcause, hfirst⟩

/-- A row with a field of the key and two of one name, of which the last takes fewer numbers. -/
def narrowedRow : Schema :=
  (Schema.ofFields "row" [("x", .ofKind .int64), ("id", .ofKind .string),
    ("x", .ofKind .int8)]).asOptional

/-- A deletion of such a row, with a number that only the first of the two takes. -/
def narrowedDeletion : Struct :=
  ⟨.ofFields "t.Envelope" [(Event.beforeField, narrowedRow), (Event.afterField, narrowedRow)],
    [(Event.beforeField,
      .object [("id", .string "1"), ("x", .number (.whole ⟨300, by decide, by decide⟩))])]⟩

/-- The number agrees with both schemas of its name, and the table has all columns.  The deletion is
refused all the same, since the type of the last field does not take the number. -/
theorem transform_decode_iff_narrowedDeletion :
    let record := Event.keyedRecord (.ofFields "key" [("id", .ofKind .string)]) narrowedDeletion
    let d := Destination.ofTextColumns "db" "t" ["id", "x"] .never
    let failure := TransformError.decode "t" 0 (.conversion "x" (.outOfRange "int8" "300"))
    Struct.ofJson narrowedDeletion.schema (.object narrowedDeletion.members) =
        .ok narrowedDeletion ∧
      (Run.eventConnector.transform record d).1 = .error failure ∧
      failure.message = "failed to decode record from topic t at offset 0: " ++
        "field x: int8: value 300 is out of range" ∧
      ∃ event table snapshot d', Event.ofRecord .builtin record = .ok event ∧
        event.isDelete = true ∧
        d.ensureColumns "db" .basic table event = (.ok snapshot, d') ∧
        ∃ field : EventField, field.name = "x" ∧ field.schema = .ofKind .int8 ∧
          field.OfRow .builtin record := by
  intro record d failure
  have hfailure : (Run.eventConnector.transform record d).1 = .error failure := by decide +kernel
  obtain ⟨event, hevent⟩ : ∃ event, Event.ofRecord .builtin record = .ok event := ⟨_, rfl⟩
  have hdelete : (Event.ofRecord .builtin record).toOption.any Event.isDelete = true := by
    decide +kernel
  rw [hevent] at hdelete
  obtain ⟨image, -, -, -, hiff⟩ := transform_decode_iff (c := Run.eventConnector) hevent
  obtain ⟨-, ⟨table, snapshot, -, hensured⟩, field, error, hcause, hofRow, -⟩ :=
    (hiff d _ "t" 0 _).1 (Prod.ext hfailure rfl)
  obtain ⟨hname, -⟩ := DecodeCause.conversion.inj hcause
  refine ⟨rfl, hfailure, by decide +kernel, event, table, snapshot, _, hevent, hdelete, hensured,
    field, hname.symm, ?_, hofRow⟩
  obtain ⟨rowSchema, hrow, hlookup⟩ := hofRow.declared
  have hschema : Event.rowSchemaOf? record = some narrowedRow := rfl
  cases hschema.symm.trans hrow
  rw [← hname] at hlookup
  exact (Option.some.inj hlookup).symm

end Connector

end TableFeed
