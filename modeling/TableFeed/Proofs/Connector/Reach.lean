import TableFeed.Proofs.Connector.Transform
import TableFeed.Proofs.Delivery.Rows

/-!
# Records that reach the catalog

Only a record from which the connector takes an event of a table can have the catalog called or
the cache changed, and it does so by ensuring the columns of that table
(`Connector.transform_reach`).  All other records leave the destination as it is, with the
counts of the calls that were tried.  That holds of the refusals too which come before the
columns are ensured; two of them can be told by the error, since ensuring columns fails with
an error about the table and the writing of a row with one about the record.

A record has no payload exactly when it has neither value nor schema.  A record that was made
from converter output has none exactly when that output is null.
-/

namespace TableFeed

/-! ## Errors about a table -/

namespace Destination

variable {database table : String} {evolution : Evolution} {event : Event} {d d' : Destination}
  {error : TransformError}

/-- The errors of ensuring the columns of a table. -/
inductive TableError (database table : String) : TransformError → Prop where
  | catalog (cause : CatalogError) : TableError database table (.catalog table cause)
  | missingTable : TableError database table (.missingTable database table)
  | evolutionDisabled (fields : List String) :
      TableError database table (.evolutionDisabled table fields)
  | alteration (column : String) (cause : CatalogError) :
      TableError database table (.alteration column table cause)

theorem ConfirmOutcome.tableError (h : d.ConfirmOutcome database table (.error error) d') :
    TableError database table error := by
  cases h with
  | failed => exact .catalog _
  | absent => exact .missingTable

theorem LoadOutcome.tableError (h : d.LoadOutcome database table (.error error) d') :
    TableError database table error := by
  cases h with
  | failed => exact .catalog _

theorem tableError_of_addColumns {columns : List NewColumn} {c c' : Connection}
    (h : addColumns database table columns c = (.error error, c')) :
    TableError database table error := by
  obtain ⟨-, column, -, cause, -, -, rfl, -, -⟩ := addColumns_error h
  exact .alteration column.name cause

theorem Outcome.tableError (h : d.Outcome database evolution table event (.error error) d') :
    TableError database table error := by
  cases h with
  | unconfirmed hconfirm => exact hconfirm.tableError
  | unknown _ _ hload => exact hload.tableError
  | disabled => exact .evolutionDisabled _
  | unaltered _ _ hadded => exact tableError_of_addColumns hadded
  | unrefreshed _ _ _ _ hload => exact hload.tableError

end Destination

/-! ## Tombstones -/

namespace Record

theorem isTombstone_iff {record : Record} :
    record.isTombstone = true ↔ record.value = .null ∧ record.valueSchema = none := by
  have hnull : record.value.isNull = true ↔ record.value = .null := by
    cases record.value <;> simp [RecordValue.isNull]
  rw [isTombstone, Bool.and_eq_true, hnull, Option.isNone_iff_eq_none]

/-- A value with a schema is never null, and one without is as it came. -/
theorem isTombstone_of_decode {raw : Json} {schema : Option Schema} {value : RecordValue}
    (h : decode raw = .ok (schema, value)) : value = .null ∧ schema = none ↔ raw = .null := by
  unfold decode at h
  cases henvelope : envelope? raw with
  | none =>
    rw [henvelope] at h
    cases h
    cases raw <;> simp [RecordValue.schemaless]
  | some parts =>
    have hraw : raw ≠ .null := by
      rintro rfl
      cases henvelope
    have hschema : schema ≠ none := by
      simp only [henvelope] at h
      cases hread : Schema.ofJson? parts.1 with
      | none =>
        simp only [hread] at h
        cases h
      | some found =>
        simp only [hread] at h
        by_cases hnull : parts.2.isNull = true
        · rw [if_pos hnull] at h
          cases h
          exact Option.some_ne_none found
        · rw [if_neg hnull] at h
          by_cases hkind : found.kind = .struct
          · rw [if_pos hkind] at h
            cases hmade : Struct.ofJson found parts.2 with
            | error error =>
              rw [hmade] at h
              cases h
            | ok s =>
              rw [hmade] at h
              cases h
              exact Option.some_ne_none found
          · rw [if_neg hkind] at h
            cases h
            exact Option.some_ne_none found
    simp [hraw, hschema]

/-- Converter output makes a tombstone when it is null, whatever the key. -/
theorem isTombstone_ofJson {record : Record} {topic : String} {partition : Int32}
    {offset : Int64} {key : Option Json} {value : Json}
    (h : ofJson topic partition offset key value = .ok record) :
    record.isTombstone = true ↔ value = .null := by
  obtain ⟨⟨valueSchema, decoded⟩, hvalue, hnext⟩ := exists_of_bind_eq_ok h
  obtain ⟨⟨keySchema, decodedKey⟩, -, hend⟩ := exists_of_bind_eq_ok hnext
  cases hend
  rw [isTombstone_iff]
  exact isTombstone_of_decode hvalue

end Record

/-! ## Transformations -/

namespace Connector

variable {c : Connector} {record : Record} {d : Destination} {event : Event} {table : String}

theorem map_some_ne_ok_none {ε α : Type} (result : Except ε α) :
    result.map some ≠ .ok none := by
  cases result with
  | error error => exact nofun
  | ok value => exact nofun

theorem transform_eq_none_iff (c : Connector) (record : Record) (d : Destination) :
    (c.transform record d).1 = .ok none ↔ record.isTombstone = true := by
  cases htombstone : record.isTombstone with
  | true => simp [inert_of_isTombstone htombstone d]
  | false =>
    simp only [Bool.false_eq_true, iff_false]
    by_cases hevent : ∃ event table, c.TakesEvent record event table
    · obtain ⟨event, table, htakes⟩ := hevent
      rw [htakes.isEvent d]
      rcases d.ensureColumns c.config.database c.config.evolution table event with ⟨_ | _, _⟩
      · exact nofun
      · exact map_some_ne_ok_none _
    · obtain ⟨answer, hinert⟩ := exists_inert htombstone
        fun event table htakes => hevent ⟨event, table, htakes⟩
      rw [hinert d]
      exact map_some_ne_ok_none _

theorem transform_of_not_takesEvent (h : ∀ event table, ¬ c.TakesEvent record event table) :
    (c.transform record d).2 = d := by
  cases htombstone : record.isTombstone with
  | true => rw [inert_of_isTombstone htombstone d]
  | false =>
    obtain ⟨answer, hinert⟩ := exists_inert htombstone h
    rw [hinert d]

/-- The transformation of an event fails with an error about its table or a decoding error. -/
theorem TakesEvent.error_cases (h : c.TakesEvent record event table) {error : TransformError}
    (herror : (c.transform record d).1 = .error error) :
    Destination.TableError c.config.database table error ∨
      ∃ topic offset cause, error = .decode topic offset cause := by
  rw [h.isEvent d] at herror
  rcases hensured : d.ensureColumns c.config.database c.config.evolution table event
    with ⟨failure | snapshot, d'⟩
  · rw [hensured] at herror
    cases herror
    exact .inl (Destination.outcome_of_ensureColumns hensured).tableError
  · rw [hensured] at herror
    right
    change (c.rowText record event).map some = .error error at herror
    rw [rowText] at herror
    split at herror
    · cases herror
      exact ⟨_, _, _, rfl⟩
    · cases herror

/-- A record has no payload exactly when it is a tombstone.  The destination is as before unless the
connector takes an event of a table from the record; then the columns of that table are ensured for
the event, and that is all that happens to the destination.  So records that are not structured,
records of a connector that takes none of their changes, and records that are refused for their
category or for want of a table leave no trace. -/
theorem transform_reach (c : Connector) (record : Record) (d : Destination) :
    ((c.transform record d).1 = .ok none ↔ record.value = .null ∧ record.valueSchema = none) ∧
    (∀ topic partition offset key value,
      Record.ofJson topic partition offset key value = .ok record →
        ((c.transform record d).1 = .ok none ↔ value = .null)) ∧
    ((∀ event table, ¬ c.TakesEvent record event table) → (c.transform record d).2 = d) ∧
    (∀ event table, c.TakesEvent record event table → (c.transform record d).2 =
      (d.ensureColumns c.config.database c.config.evolution table event).2) ∧
    ((∀ s, record.value ≠ .struct s) → (c.transform record d).2 = d) ∧
    (c.config.mode = .normal → (c.transform record d).2 = d) ∧
    (∀ topic category, (c.transform record d).1 = .error (.unsupportedCategory topic category) →
      (c.transform record d).2 = d) ∧
    ∀ topic cause, (c.transform record d).1 = .error (.tableName topic cause) →
      (c.transform record d).2 = d := by
  refine ⟨?_, ?_, transform_of_not_takesEvent, ?_, ?_, ?_, ?_, ?_⟩
  · rw [transform_eq_none_iff, Record.isTombstone_iff]
  · intro topic partition offset key value hmade
    rw [transform_eq_none_iff, Record.isTombstone_ofJson hmade]
  · intro event table htakes
    rw [htakes.isEvent d]
  · intro hshape
    refine transform_of_not_takesEvent fun event table htakes => ?_
    obtain ⟨s, hstruct⟩ := htakes.structured
    exact hshape s hstruct
  · intro hmode
    refine transform_of_not_takesEvent fun event table htakes => ?_
    cases hmode.symm.trans htakes.mode
  · intro topic category herror
    refine transform_of_not_takesEvent fun event table htakes => ?_
    rcases htakes.error_cases herror with htable | ⟨_, _, _, hdecode⟩
    · cases htable
    · cases hdecode
  · intro topic cause herror
    refine transform_of_not_takesEvent fun event table htakes => ?_
    rcases htakes.error_cases herror with htable | ⟨_, _, _, hdecode⟩
    · cases htable
    · cases hdecode

/-- A record of a topic `t` with a field `x`, whose schema has a name. -/
def namedRecord (name : String) : Record :=
  let row := Schema.ofFields name [("x", .ofKind .string)]
  .ofValue "t" 0 1 (some row) (.struct ⟨row, [("x", .string "1")]⟩)

/-- Whether the record is refused for its category or its table gets a column depends on the name of
its schema. -/
theorem transform_reach_namedRecord :
    let d := Run.bareStart.destination
    (Run.eventConnector.transform (namedRecord "x.SchemaChangeValue") d).1 =
        .error (.unsupportedCategory "t" schemaChangeMarker) ∧
      (Run.eventConnector.transform (namedRecord "x.SchemaChangeValue") d).2 = d ∧
      ∃ event table, Run.eventConnector.TakesEvent (namedRecord "x.Value") event table ∧
        (Run.eventConnector.transform (namedRecord "x.Value") d).2 =
          (d.ensureColumns "db" .basic table event).2 ∧
        (Run.eventConnector.transform (namedRecord "x.Value") d).2.connection.tried =
          ⟨1, 2, 1⟩ := by
  intro d
  have hrefused : (Run.eventConnector.transform (namedRecord "x.SchemaChangeValue") d).1 =
      .error (.unsupportedCategory "t" schemaChangeMarker) := by
    have hchange : isSchemaChange (namedRecord "x.SchemaChangeValue") = true := by decide +kernel
    have herror : Run.eventConnector.eventAndTable (namedRecord "x.SchemaChangeValue") =
        .error (.unsupportedCategory "t" schemaChangeMarker) := by
      rw [eventAndTable, if_pos hchange]
      rfl
    rw [transform_struct rfl rfl, transformEvent_of_error herror]
    rfl
  have hsome : (Run.eventConnector.eventAndTable (namedRecord "x.Value")).toOption.isSome =
      true := by
    decide +kernel
  rcases hfound : Run.eventConnector.eventAndTable (namedRecord "x.Value") with _ | ⟨event, table⟩
  · rw [hfound] at hsome
    cases hsome
  · have htakes := takesEvent_of_eventAndTable rfl hfound
    obtain ⟨-, -, -, -, -, -, hcategory, -⟩ :=
      transform_reach Run.eventConnector (namedRecord "x.SchemaChangeValue") d
    obtain ⟨-, -, -, hevent, -⟩ := transform_reach Run.eventConnector (namedRecord "x.Value") d
    exact ⟨hrefused, hcategory _ _ hrefused, event, table, htakes, hevent event table htakes,
      by decide +kernel⟩

end Connector

end TableFeed
