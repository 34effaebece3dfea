import TableFeed.Proofs.Connector.Transform
import TableFeed.Proofs.Delivery.Deposit

/-!
# Rows and the columns of their table

A run that takes change events changes the destination in one way only: it ensures the
columns of tables for events (`Run.takeLines_ensured`).  So the cache is true of the
catalog before every line.  A row then never runs ahead of its table: each of its names
and each field of its key is a column of the table, and of the table under whose name the
row is buffered (`rows_have_columns`).  No column is lost later.
-/

namespace TableFeed

/-! ## The names of a row -/

namespace Connector

variable {c : Connector} {record : Record} {d d' : Destination}

theorem rowMembers_cons {event : Event} {image : Struct} {name : String} {names : List String}
    {done members : List (String × Json)}
    (h : rowMembers event image (name :: names) done = .ok members) :
    ∃ field value, event.field? name = some field ∧ rowValue image field = .ok value ∧
      rowMembers event image names (Entries.put name value done) = .ok members := by
  rw [rowMembers] at h
  split at h
  · cases h
  · next field hfield =>
    split at h
    · cases h
    · next value hvalue => exact ⟨field, value, hfield, hvalue, h⟩

/-- The keys are the names in order, without those that come again. -/
theorem map_fst_rowMembers {event : Event} {image : Struct} {names keys : List String}
    {done members : List (String × Json)}
    (hdone : done.map Prod.fst = keys.eraseDups)
    (h : rowMembers event image names done = .ok members) :
    members.map Prod.fst = (keys ++ names).eraseDups := by
  induction names generalizing done keys with
  | nil =>
    cases h
    rwa [List.append_nil]
  | cons name rest ih =>
    obtain ⟨field, value, -, -, hrest⟩ := rowMembers_cons h
    rw [ih (Entries.map_fst_put_of_eraseDups hdone name value) hrest, List.append_assoc]
    rfl

/-- The keys of a row are the names of the fields that belong to no key, then the delete sign, each
once. -/
theorem map_fst_row {sign : DeleteSign} {event : Event} {members : List (String × Json)}
    (h : row sign event = .ok members) :
    members.map Prod.fst = (event.nonKeyNames ++ [sign.field]).eraseDups := by
  obtain ⟨image, -, himage⟩ := exists_of_bind_eq_ok h
  obtain ⟨fields, hfields, hsigned⟩ := exists_of_bind_eq_ok himage
  cases hsigned
  have hnone : ([] : List (String × Json)).map Prod.fst = ([] : List String).eraseDups := rfl
  exact Entries.map_fst_put_of_eraseDups (map_fst_rowMembers hnone hfields) _ _

theorem name_mem_of_row {sign : DeleteSign} {event : Event} {members : List (String × Json)}
    {name : String} (h : row sign event = .ok members) (hname : name ∈ members.map Prod.fst) :
    name = sign.field ∨ name ∈ event.nonKeyNames := by
  rw [map_fst_row h, List.mem_eraseDups, List.mem_append, List.mem_singleton] at hname
  exact hname.symm

/-! ## The columns that a row needs -/

/-- The names that a table must have for a row: those of the row but the delete sign, and those of
the fields of the record's key. -/
def Needed (c : Connector) (record : Record) (members : List (String × Json)) (name : String) :
    Prop :=
  name ∈ members.map Prod.fst ∧ name ≠ c.config.deleteSign.field ∨
    ∃ schema, record.keySchema = some schema ∧ name ∈ schema.fieldNames

theorem mem_fieldNames_of_needed {event : Event} {members : List (String × Json)} {name : String}
    (hevent : Event.ofRecord c.registry record = .ok event)
    (hrow : row c.config.deleteSign event = .ok members) (hname : c.Needed record members name) :
    name ∈ event.fieldNames := by
  obtain ⟨-, hnamed, hkey⟩ := Event.ofRecord_ok hevent
  rcases hname with ⟨hmember, hsign⟩ | ⟨schema, hschema, hfield⟩
  · rcases name_mem_of_row hrow hmember with heq | hnonKey
    · exact absurd heq hsign
    · exact hnamed.nonKey name hnonKey
  · exact hkey schema hschema name hfield

/-- Where the cache is true, a row is written for a table that has the columns. -/
theorem transform_columns {s : Struct} {payload : String} (hmode : c.config.mode = .changeEvents)
    (hstruct : record.value = .struct s) (hcoherent : d.Coherent c.config.database)
    (h : c.transform record d = (.ok (some payload), d')) :
    ∃ event members table, Event.ofRecord c.registry record = .ok event ∧
      row c.config.deleteSign event = .ok members ∧ payload = (rowDocument members).text ∧
      c.config.tableFor record.topic = .ok table ∧ ∀ name, c.Needed record members name →
        d'.connection.catalog.HasColumn c.config.database table name := by
  rw [transform_struct hmode hstruct] at h
  rcases hresult : c.transformEvent record d with ⟨_ | _, _⟩
  · rw [hresult] at h
    cases h
  · rw [hresult] at h
    cases h
    obtain ⟨event, table, snapshot, members, hevent, htable, hensured, hrow, rfl⟩ :=
      transformEvent_ok hresult
    refine ⟨event, members, table, hevent, hrow, rfl, htable, fun name hname => ?_⟩
    obtain ⟨field, hfield, rfl⟩ := (Event.ofRecord_ok hevent).2.1.exists_field
      (mem_fieldNames_of_needed hevent hrow hname)
    exact Destination.hasColumn_of_ensureColumns hcoherent hensured field hfield

end Connector

/-! ## Runs -/

namespace Run

variable {connector : Connector} {flushBytes : Nat}

theorem flush_destination (buffer : Buffer) (run : Run) :
    (run.flush buffer).2.destination = run.destination := by
  unfold flush
  split
  · rfl
  · dsimp only
    split
    · rfl
    · rfl

theorem deliver_destination (config : Config) (flushBytes : Nat) (table payload : String)
    (run : Run) :
    (run.deliver config flushBytes table payload).2.destination = run.destination := by
  unfold deliver
  dsimp only
  split
  · rw [flush_destination]
  · rfl

/-- The destination of the second run is that of the first after columns were ensured. -/
abbrev Ensured (connector : Connector) (run run' : Run) : Prop :=
  Destination.Ensured connector.config.database connector.config.evolution run.destination
    run'.destination

theorem takeRecord_ensured (connector : Connector) (flushBytes : Nat) (line : String) (run : Run) :
    Ensured connector run (run.takeRecord connector flushBytes line).2 := by
  unfold takeRecord
  dsimp only
  split
  · exact .refl _
  · next record _ =>
    have htransform := connector.transform_ensured record run.destination
    split
    · next heq => rwa [heq] at htransform
    · next heq => rwa [heq] at htransform
    · next heq =>
      rw [heq] at htransform
      rwa [Ensured, deliver_destination]

theorem takeLine_ensured (connector : Connector) (flushBytes : Nat) (line : String) (run : Run) :
    Ensured connector run (run.takeLine connector flushBytes line).2 := by
  unfold takeLine
  split
  · exact .refl _
  · exact takeRecord_ensured connector flushBytes line run

/-- Lines do nothing to the destination but ensure columns. -/
theorem takeLines_ensured (connector : Connector) (flushBytes : Nat)
    (lines : List (Except Text.Utf8.Fault String)) (run : Run) :
    Ensured connector run (run.takeLines connector flushBytes lines).2 := by
  rw [takeLines_eq]
  refine performAll_invariant (fun input middle hmiddle => ?_) lines (.refl _)
  cases input with
  | error fault => exact hmiddle
  | ok line => exact hmiddle.trans (takeLine_ensured connector flushBytes line middle)

theorem flushAll_destination (buffers : List Buffer) (run : Run) :
    (run.flushAll buffers).2.destination = run.destination := by
  rw [flushAll_eq]
  exact performAll_invariant
    (fun buffer middle hmiddle => (flush_destination buffer middle).trans hmiddle) buffers rfl

/-- Completing a run leaves the destination as it is after the last line. -/
theorem complete_destination (connector : Connector) (flushBytes : Nat)
    (lines : List (Except Text.Utf8.Fault String)) (run : Run) :
    (run.complete connector flushBytes lines).2.destination =
      (run.takeLines connector (max flushBytes 1) lines).2.destination := by
  unfold complete
  split
  · next heq => rw [heq]
  · next after heq =>
    have hflush := flushAll_destination after.buffers.values after
    rw [heq]
    split
    · next hflushed => rwa [hflushed] at hflush
    · next hflushed => rwa [hflushed] at hflush

/-- What comes after a line. -/
theorem takeLine_later (connector : Connector) (flushBytes : Nat) (line : String)
    (rest : List (Except Text.Utf8.Fault String)) (run : Run) :
    (run.takeLine connector flushBytes line).2.destination.connection.Later
      (run.takeLines connector flushBytes (.ok line :: rest)).2.destination.connection := by
  rw [takeLines]
  split
  · next heq =>
    rw [heq]
    exact .refl _
  · next after heq =>
    rw [heq]
    exact (takeLines_ensured connector flushBytes rest after).later

/-- Whenever a run turns a structured record into a row, the row is put into the buffer of a table,
or written for it with what waited there, and no other buffer changes.  All names of the row but
the delete sign, and all fields of the record's key, are columns of that table; they are columns of
it at every later moment, and so in particular after any later lines and at the end of the run. -/
theorem rows_have_columns {connector : Connector} {catalog : Catalog} {outages : Outages}
    {sink : Sink} {flushBytes : Nat} {before : List (Except Text.Utf8.Fault String)} {run : Run}
    {line : String} {record : Record} {s : Struct} {payload : String} {d : Destination}
    (hmode : connector.config.mode = .changeEvents)
    (hbefore : (start (.ofCatalog catalog outages) sink).takeLines connector (max flushBytes 1)
      before = (.ok (), run))
    (hline : Text.isBlankText line = false) (hrecord : recordOf? line = some record)
    (hstruct : record.value = .struct s)
    (htransform : connector.transform record run.destination = (.ok (some payload), d)) :
    ∃ event members table, Event.ofRecord connector.registry record = .ok event ∧
      Connector.row connector.config.deleteSign event = .ok members ∧
      payload = (Connector.rowDocument members).text ∧
      run.takeLine connector (max flushBytes 1) line =
        deliver connector.config (max flushBytes 1) table payload
          { run with destination := d, report.records := run.report.records + 1 } ∧
      Deposited connector.config table payload run
        (run.takeLine connector (max flushBytes 1) line).2 ∧
      (∀ other, other ≠ table →
        (run.takeLine connector (max flushBytes 1) line).2.buffers.get? other =
          run.buffers.get? other) ∧
      (∀ name, connector.Needed record members name → ∀ c, d.connection.Later c →
        c.catalog.HasColumn connector.config.database table name) ∧
      ∀ later, d.connection.Later ((start (.ofCatalog catalog outages) sink).takeLines connector
          (max flushBytes 1) (before ++ .ok line :: later)).2.destination.connection ∧
        d.connection.Later ((start (.ofCatalog catalog outages) sink).complete connector
          flushBytes (before ++ .ok line :: later)).2.destination.connection := by
  -- The lines before have only ensured columns, so the cache is true of the catalog.
  have hensured := takeLines_ensured connector (max flushBytes 1) before
    (start (.ofCatalog catalog outages) sink)
  rw [hbefore] at hensured
  have hcoherent := hensured.coherent
    (Destination.coherent_ofCatalog connector.config.database catalog outages)
  obtain ⟨event, members, table, hevent, hrow, hpayload, htable, hcolumns⟩ :=
    Connector.transform_columns hmode hstruct hcoherent htransform
  have htaken : run.takeLine connector (max flushBytes 1) line =
      deliver connector.config (max flushBytes 1) table payload
        { run with destination := d, report.records := run.report.records + 1 } := by
    simp [takeLine, hline, takeRecord, hrecord, htransform, tableOf, htable]
  have haccounted := (accounted_start connector.config (.ofCatalog catalog outages) sink).takeLines
    (max flushBytes 1) before
  rw [hbefore] at haccounted
  have hcounted : Accounted connector.config
    { run with destination := d, report.records := run.report.records + 1 } := haccounted
  refine ⟨event, members, table, hevent, hrow, hpayload, htaken, ?_, ?_, ?_, fun later => ?_⟩
  · rw [htaken]
    have hdeposited := deposited_deliver hcounted (max flushBytes 1) table payload
    cases hdeposited with
    | waits hbuffer hrows hsink => exact .waits hbuffer hrows hsink
    | written hbuffer hrows hsink => exact .written hbuffer hrows hsink
  · intro other hne
    rw [htaken]
    exact get?_deliver_of_ne hcounted _ payload hne
  · intro name hname c hlater
    exact hlater.grows.hasColumn (hcolumns name hname)
  · have hrest := takeLine_later connector (max flushBytes 1) line later run
    have hwhole : (start (.ofCatalog catalog outages) sink).takeLines connector (max flushBytes 1)
        (before ++ .ok line :: later) =
          run.takeLines connector (max flushBytes 1) (.ok line :: later) := by
      rw [takeLines_append, andThen, hbefore]
    rw [htaken, deliver_destination, ← hwhole] at hrest
    exact ⟨hrest, by rwa [complete_destination]⟩

/-- A line with a field `a` and a key field `id`. -/
def keyedLine : String :=
  "\x7b\"topic\":\"t\","
    ++ "\"key\":\x7b\"schema\":\x7b\"type\":\"struct\","
    ++ "\"fields\":[\x7b\"field\":\"id\",\"type\":\"int32\"\x7d]\x7d,"
    ++ "\"payload\":\x7b\"id\":1\x7d\x7d,"
    ++ "\"value\":\x7b\"schema\":\x7b\"type\":\"struct\","
    ++ "\"fields\":[\x7b\"field\":\"a\",\"type\":\"string\"\x7d]\x7d,"
    ++ "\"payload\":\x7b\"a\":\"x\"\x7d\x7d\x7d"

/-- A connector that takes change events and adds columns. -/
def eventConnector : Connector :=
  .ofConfig { Config.minimal "c" "db" with mode := .changeEvents, evolution := .basic }

/-- The start of a run into a table without columns. -/
def bareStart : Run :=
  .start (.ofTextColumns "db" "t" [] .never) (.empty "mem" none)

theorem exists_struct_of_shape {value : RecordValue} (h : value.shape = "struct") :
    ∃ s, value = .struct s := by
  cases value with
  | struct s => exact ⟨s, rfl⟩
  | null => simp [RecordValue.shape] at h
  | list items => simp [RecordValue.shape] at h
  | map members => simp [RecordValue.shape] at h
  | scalar value => simp [RecordValue.shape] at h

theorem eq_ok_of_join {ε α : Type} {result : Except ε (Option α)} {payload : α}
    (h : result.toOption.join = some payload) : result = .ok (some payload) := by
  cases result with
  | error error => cases h
  | ok answer => exact congrArg Except.ok h

theorem exists_payload_of_isSome {ε α : Type} {result : Except ε (Option α)}
    (h : result.toOption.join.isSome = true) : ∃ payload, result = .ok (some payload) := by
  obtain ⟨payload, hpayload⟩ := Option.isSome_iff_exists.1 h
  exact ⟨payload, eq_ok_of_join hpayload⟩

/-- The key of `keyedLine` becomes a column of the table that the row goes to. -/
theorem rows_have_columns_keyedLine :
    ∃ record payload d table, recordOf? keyedLine = some record ∧
      eventConnector.transform record bareStart.destination = (.ok (some payload), d) ∧
      ∀ c, d.connection.Later c → c.catalog.HasColumn "db" table "id" := by
  have hchecked : ((recordOf? keyedLine).any fun record =>
      (record.value.shape == "struct") &&
        (eventConnector.transform record bareStart.destination).1.toOption.join.isSome &&
        record.keySchema.any fun schema => schema.fieldNames.contains "id") = true := by
    decide +kernel
  have hblank : Text.isBlankText keyedLine = false := by decide +kernel
  obtain ⟨record, hrecord, hgood⟩ := (Option.any_eq_true _ _).1 hchecked
  obtain ⟨hrow, hkey⟩ := Bool.and_eq_true_iff.1 hgood
  obtain ⟨hshape, hsome⟩ := Bool.and_eq_true_iff.1 hrow
  obtain ⟨schema, hschema, hid⟩ := (Option.any_eq_true _ _).1 hkey
  obtain ⟨s, hstruct⟩ := exists_struct_of_shape (eq_of_beq hshape)
  obtain ⟨payload, hpayload⟩ := exists_payload_of_isSome hsome
  have htransform : eventConnector.transform record bareStart.destination =
      (.ok (some payload), (eventConnector.transform record bareStart.destination).2) := by
    rw [← hpayload]
  have hstart : bareStart.takeLines eventConnector (max 1 1) [] = (.ok (), bareStart) := rfl
  obtain ⟨event, members, table, -, -, -, -, -, -, hcolumns, -⟩ :=
    rows_have_columns rfl hstart hblank hrecord hstruct htransform
  refine ⟨record, payload, _, table, hrecord, htransform, ?_⟩
  exact hcolumns "id" (.inr ⟨schema, hschema, by simpa using hid⟩)

end Run

end TableFeed
