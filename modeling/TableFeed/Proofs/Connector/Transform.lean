import TableFeed.Connector
import TableFeed.Proofs.Destination.Ensured
import TableFeed.Proofs.Event.Fields

/-!
# What a transformation does

There are two kinds of records (`Connector.inert_or_event`).  Most are *inert*: the answer
does not depend on the destination, which stays as it is.  From the others an event of a
table is taken (`Connector.TakesEvent`), and all that the transformation of an event does to
the destination is to ensure the columns of that table.  The columns themselves are not read:
once they are ensured, the row depends on the record alone.

So any number of transformations only ensure columns (`Connector.transformAll_ensured`).
-/

namespace TableFeed.Connector

variable {c : Connector} {record : Record} {d d' : Destination} {event : Event} {table : String}

/-! ## Events and tables -/

theorem eventAndTable_ok (h : c.eventAndTable record = .ok (event, table)) :
    Event.ofRecord c.registry record = .ok event ∧ c.config.tableFor record.topic = .ok table := by
  unfold eventAndTable at h
  by_cases hchange : isSchemaChange record = true
  · simp only [if_pos hchange] at h
    cases h
  · simp only [if_neg hchange] at h
    obtain ⟨event', hevent, hnext⟩ := exists_of_bind_eq_ok h
    obtain ⟨table', htable, hend⟩ := exists_of_bind_eq_ok hnext
    cases hend
    have htopic := (Event.ofRecord_ok hevent).1
    exact ⟨hevent, htopic ▸ eq_ok_of_mapError htable⟩

/-- The text of an event's row. -/
def rowText (c : Connector) (record : Record) (event : Event) : Except TransformError String :=
  match row c.config.deleteSign event with
  | .error cause => .error (.decode record.topic record.offset cause)
  | .ok members => .ok (rowDocument members).text

theorem transformEvent_of_error {error : TransformError}
    (h : c.eventAndTable record = .error error) :
    c.transformEvent record d = (.error error, d) := by
  simp only [transformEvent, h]

theorem transformEvent_of_event (h : c.eventAndTable record = .ok (event, table)) :
    c.transformEvent record d =
      let (result, d') := d.ensureColumns c.config.database c.config.evolution table event
      (result.bind fun _ => c.rowText record event, d') := by
  simp only [transformEvent, h]
  rcases d.ensureColumns c.config.database c.config.evolution table event with ⟨_ | snapshot, d'⟩
  · rfl
  · simp only [Except.bind, rowText]
    cases row c.config.deleteSign event with
    | error cause => rfl
    | ok members => rfl

/-- A row is written once the columns of its table were ensured for its event. -/
theorem transformEvent_ok {payload : String} (h : c.transformEvent record d = (.ok payload, d')) :
    ∃ event table snapshot members, Event.ofRecord c.registry record = .ok event ∧
      c.config.tableFor record.topic = .ok table ∧
      d.ensureColumns c.config.database c.config.evolution table event = (.ok snapshot, d') ∧
      row c.config.deleteSign event = .ok members ∧ payload = (rowDocument members).text := by
  unfold transformEvent at h
  split at h
  · cases h
  · next event table heq =>
    obtain ⟨hevent, htable⟩ := eventAndTable_ok heq
    split at h
    · cases h
    · next hensured =>
      split at h
      · cases h
      · next members hrow =>
        cases h
        exact ⟨event, table, _, members, hevent, htable, hensured, hrow, rfl⟩

/-- A structured value is transformed as a change event where the connector takes these. -/
theorem transform_struct {s : Struct} (hmode : c.config.mode = .changeEvents)
    (hstruct : record.value = .struct s) :
    c.transform record d =
      ((c.transformEvent record d).1.map some, (c.transformEvent record d).2) := by
  simp [transform, Record.isTombstone, RecordValue.isNull, hstruct, hmode]

/-! ## The two kinds of records -/

/-- Whatever the destination, the record gets this answer and leaves the destination as it is. -/
def Inert (c : Connector) (record : Record)
    (answer : Except TransformError (Option String)) : Prop :=
  ∀ d, c.transform record d = (answer, d)

/-- The record is an event of a table: the columns of the table are ensured for it, and its row is
written when that succeeds. -/
def IsEvent (c : Connector) (record : Record) (event : Event) (table : String) : Prop :=
  ∀ d, c.transform record d =
    let (result, d') := d.ensureColumns c.config.database c.config.evolution table event
    (result.bind fun _ => (c.rowText record event).map some, d')

theorem map_bind_const {ε α β γ : Type} (result : Except ε α) (next : Except ε β) (f : β → γ) :
    (result.bind fun _ => next).map f = result.bind fun _ => next.map f := by
  cases result with
  | error error => rfl
  | ok value => rfl

/-- A connector takes an event of a table from a record. -/
structure TakesEvent (c : Connector) (record : Record) (event : Event) (table : String) :
    Prop where
  /-- The connector takes change events. -/
  mode : c.config.mode = .changeEvents
  /-- The value is structured. -/
  structured : ∃ s, record.value = .struct s
  /-- The record does not tell of a changed schema. -/
  ordinary : isSchemaChange record = false
  /-- The event is that of the record. -/
  event : Event.ofRecord c.registry record = .ok event
  /-- The table is that of the record's topic. -/
  table : c.config.tableFor record.topic = .ok table

theorem takesEvent_of_eventAndTable (hmode : c.config.mode = .changeEvents)
    (h : c.eventAndTable record = .ok (event, table)) : c.TakesEvent record event table := by
  obtain ⟨hevent, htable⟩ := eventAndTable_ok h
  refine ⟨hmode, Event.exists_struct_of_ofRecord hevent, ?_, hevent, htable⟩
  cases hchange : isSchemaChange record with
  | false => rfl
  | true =>
    rw [eventAndTable, if_pos hchange] at h
    cases h

namespace TakesEvent

theorem eventAndTable (h : c.TakesEvent record event table) :
    c.eventAndTable record = .ok (event, table) := by
  have htopic := (Event.ofRecord_ok h.event).1
  simp only [Connector.eventAndTable, h.ordinary, Bool.false_eq_true, ↓reduceIte, h.event]
  change ((c.config.tableFor event.topic).mapError _ >>= fun table => .ok (event, table)) = _
  rw [htopic, h.table]
  rfl

theorem isEvent (h : c.TakesEvent record event table) : c.IsEvent record event table := by
  obtain ⟨s, hstruct⟩ := h.structured
  intro d
  rw [transform_struct h.mode hstruct, transformEvent_of_event h.eventAndTable]
  simp only [map_bind_const]

end TakesEvent

theorem inert_of_isTombstone (h : record.isTombstone = true) : c.Inert record (.ok none) :=
  fun d => by rw [transform, if_pos h]

/-- Where no event is taken, the answer does not depend on the destination. -/
theorem exists_inert (htombstone : record.isTombstone = false)
    (h : ∀ event table, ¬ c.TakesEvent record event table) :
    ∃ answer : Except TransformError String, c.Inert record (answer.map some) := by
  -- The connector that takes change events fails to find an event or its table.
  have hevents : c.config.mode = .changeEvents → ∃ error, ∀ d,
      c.transformEvent record d = (.error error, d) := by
    intro hmode
    rcases hfound : c.eventAndTable record with error | ⟨event, table⟩
    · exact ⟨error, fun d => transformEvent_of_error hfound⟩
    · exact absurd (takesEvent_of_eventAndTable hmode hfound) (h event table)
  have hnot : ¬ record.isTombstone = true := by simp [htombstone]
  cases hshape : record.value with
  | list items => exact ⟨.ok _, fun d => by rw [transform, if_neg hnot, hshape]; rfl⟩
  | map members => exact ⟨.ok _, fun d => by rw [transform, if_neg hnot, hshape]; rfl⟩
  | scalar value => exact ⟨.ok _, fun d => by rw [transform, if_neg hnot, hshape]; rfl⟩
  | struct s =>
    cases hmode : c.config.mode with
    | normal =>
      exact ⟨transformPlain record, fun d => by simp only [transform, if_neg hnot, hshape, hmode]⟩
    | changeEvents =>
      obtain ⟨error, herror⟩ := hevents hmode
      refine ⟨.error error, fun d => ?_⟩
      simp only [transform, if_neg hnot, hshape, hmode, herror]
  | null =>
    cases hmode : c.config.mode with
    | normal =>
      exact ⟨transformPlain record, fun d => by simp only [transform, if_neg hnot, hshape, hmode]⟩
    | changeEvents =>
      obtain ⟨error, herror⟩ := hevents hmode
      refine ⟨.error error, fun d => ?_⟩
      simp only [transform, if_neg hnot, hshape, hmode, herror]

theorem inert_or_event (c : Connector) (record : Record) :
    (∃ answer, c.Inert record answer) ∨
      ∃ event table, c.config.tableFor record.topic = .ok table ∧ c.IsEvent record event table := by
  by_cases hevent : ∃ event table, c.TakesEvent record event table
  · obtain ⟨event, table, h⟩ := hevent
    exact .inr ⟨event, table, h.table, h.isEvent⟩
  · left
    cases htombstone : record.isTombstone with
    | true => exact ⟨_, inert_of_isTombstone htombstone⟩
    | false =>
      obtain ⟨answer, h⟩ := exists_inert htombstone
        fun event table h => hevent ⟨event, table, h⟩
      exact ⟨_, h⟩

/-- A transformation does nothing to the destination but ensure columns. -/
theorem transform_ensured (c : Connector) (record : Record) (d : Destination) :
    Destination.Ensured c.config.database c.config.evolution d (c.transform record d).2 := by
  rcases c.inert_or_event record with ⟨answer, hinert⟩ | ⟨event, table, -, hevent⟩
  · rw [hinert d]
    exact .refl d
  · rw [hevent d]
    exact .step c.config.database c.config.evolution table event d

/-! ## Any number of records -/

/-- Transforms records one after the other; each with its answer, and the destination after
them. -/
def transformAll (c : Connector) : List Record → Destination →
    List (Record × Except TransformError (Option String)) × Destination
  | [], d => ([], d)
  | record :: rest, d =>
    let (answer, d) := c.transform record d
    let (answers, d) := c.transformAll rest d
    ((record, answer) :: answers, d)

theorem transformAll_ensured (c : Connector) (records : List Record) (d : Destination) :
    Destination.Ensured c.config.database c.config.evolution d (c.transformAll records d).2 := by
  induction records generalizing d with
  | nil => exact .refl d
  | cons record rest ih => exact (c.transform_ensured record d).trans (ih _)

end TableFeed.Connector
