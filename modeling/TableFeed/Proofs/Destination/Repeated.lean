import TableFeed.Proofs.Destination.Dialogue
import TableFeed.Proofs.Destination.ReadOnly
import TableFeed.Proofs.Event.Fields

/-!
# Names that come twice

The fields of an event that a table has no column for are found before any is added, and a name
that comes twice among them is tried twice.  Nothing on the way to the event rules that out: the
schema of a row may have fields of one name, and so may the schema of a key.

`Repeats` finds the first name that comes again.  Columns are added up to it and its second
addition is refused, as the table has the column by then (`Dialogue.Adds.of_repeats`).  Where no
name comes twice all are added and the event succeeds.  So these two go together, for every record
and whatever is known of the table (`Destination.ensureColumns_repeated`).
-/

namespace TableFeed

/-! ## The first name that comes again -/

/-- A name comes again in a list after different ones that it is among. -/
structure Repeats (names front : List String) (name : String) : Prop where
  /-- The names before it and itself are at the front of the list. -/
  split : ∃ rest, names = front ++ name :: rest
  /-- Those before it are different. -/
  nodup : front.Nodup
  /-- It is one of them. -/
  mem : name ∈ front

theorem Repeats.not_nodup {names front : List String} {name : String}
    (h : Repeats names front name) : ¬ names.Nodup := by
  obtain ⟨rest, rfl⟩ := h.split
  intro hnodup
  exact (List.nodup_append.1 hnodup).2.2 name h.mem name List.mem_cons_self rfl

/-- The names in a list are different, or there is a first one that comes again. -/
theorem nodup_or_repeats (names : List String) :
    names.Nodup ∨ ∃ front name, Repeats names front name := by
  induction names using List.reverseRecOn with
  | nil => exact .inl .nil
  | append_singleton names name ih =>
    rcases ih with hnodup | ⟨front, first, ⟨rest, rfl⟩, hnodup, hmem⟩
    · by_cases hmem : name ∈ names
      · exact .inr ⟨names, name, ⟨[], rfl⟩, hnodup, hmem⟩
      · have hne : ∀ other ∈ names, other ≠ name := fun other hother heq => hmem (heq ▸ hother)
        exact .inl (by simpa [List.nodup_append] using ⟨hnodup, hne⟩)
    · exact .inr ⟨front, first, ⟨rest ++ [name], by simp⟩, hnodup, hmem⟩

/-! ## Names that are added -/

namespace Call

/-- The name of the column that a call adds. -/
def added? : Call → Option String
  | addition _ column _ => some column.name
  | _ => none

end Call

namespace Dialogue

variable {database table : String} {report : TableReport} {columns done rest : List NewColumn}
  {c c' : Connection}

/-- The names of the columns that a dialogue tries to add, in order. -/
def addedNames {α : Type} (dialogue : Dialogue α) (database : String) (c : Connection) :
    List String :=
  (dialogue.calls database c).filterMap Call.added?

theorem addedNames_bind {α β : Type} (dialogue : Dialogue α) (f : α → Dialogue β) :
    (dialogue.bind f).addedNames database c = dialogue.addedNames database c ++
      (f (dialogue.hold database c).1).addedNames database (dialogue.hold database c).2 := by
  rw [addedNames, calls_bind, List.filterMap_append]
  rfl

/-- A dialogue of questions adds nothing. -/
theorem addedNames_eq_nil {α : Type} {dialogue : Dialogue α}
    (h : dialogue.Only fun call => call.added? = none) : dialogue.addedNames database c = [] :=
  List.filterMap_eq_nil_iff.2 (h.calls database c)

theorem adding_append (table : String) (done rest : List NewColumn) :
    adding table (done ++ rest) = (adding table done).bind fun
      | .error error => .done (.error error)
      | .ok () => adding table rest := by
  induction done with
  | nil => rfl
  | cons column done ih =>
    rw [List.cons_append, adding, adding, bind]
    refine congrArg (Dialogue.addition table column) (funext fun answer => ?_)
    cases answer with
    | error error => rfl
    | ok _ => exact ih

/-- What adding columns answers, and the names of the columns that are tried. -/
structure Adds (database table : String) (columns : List NewColumn) (c : Connection)
    (answer : Except TransformError Unit) (names : List String) : Prop where
  answer : (Destination.addColumns database table columns c).1 = answer
  names : (adding table columns).addedNames database c = names

theorem addedNames_adding (h : Destination.addColumns database table columns c = (.ok (), c')) :
    (adding table columns).addedNames database c = columns.map NewColumn.name := by
  induction columns generalizing c with
  | nil => rfl
  | cons column rest ih =>
    rw [Destination.addColumns_cons] at h
    split at h
    · cases h
    next middle hcall =>
    rw [adding, addedNames, calls, hcall]
    exact congrArg (column.name :: ·) (ih h)

/-- A column that the table has is refused. -/
theorem addColumn_of_mem {column : NewColumn} (hready : c.Ready database table report)
    (hmem : column.name ∈ report.columnNames) :
    (c.addColumn database table column).1 = .error (.duplicate column.name) := by
  have houtcome := c.addColumn_outcome database table column
  generalize c.addColumn database table column = result at houtcome
  obtain ⟨answer, c'⟩ := result
  cases houtcome with
  | out hout =>
    rw [hready.quiet.addition _ (Nat.lt_succ_self _)] at hout
    cases hout
  | reached _ hcatalog =>
    cases hcatalog with
    | refused hrefused =>
      rw [hready.refused] at hrefused
      cases hrefused
    | notFound _ hnone => cases hready.held.symm.trans hnone
    | duplicate _ _ _ => rfl
    | added _ hheld hlacks =>
      cases hready.held.symm.trans hheld
      exact absurd hmem (TableReport.hasColumn_eq_false_iff.1 hlacks)

/-- Different columns that are new to a table are all added. -/
theorem Adds.of_nodup (hready : c.Ready database table report)
    (hfresh : ∀ column ∈ columns, column.name ∉ report.columnNames)
    (hnodup : (columns.map NewColumn.name).Nodup) :
    Adds database table columns c (.ok ()) (columns.map NewColumn.name) := by
  obtain ⟨c', hadded⟩ := Destination.addColumns_of_ready hready hnodup hfresh
  exact ⟨by rw [hadded], addedNames_adding hadded⟩

/-- Columns that are new to a table are added up to the first whose name comes again, which is
refused. -/
theorem Adds.of_repeats (hready : c.Ready database table report)
    (hfresh : ∀ column ∈ columns, column.name ∉ report.columnNames) {front : List String}
    {name : String} (hrepeats : Repeats (columns.map NewColumn.name) front name) :
    Adds database table columns c (.error (.alteration name table (.duplicate name)))
      (front ++ [name]) := by
  obtain ⟨⟨others, hsplit⟩, hnodup, hmem⟩ := hrepeats
  obtain ⟨done, after, rfl, rfl, hafter⟩ := List.map_eq_append_iff.1 hsplit
  obtain ⟨column, rest, rfl, rfl, rfl⟩ := List.map_eq_cons_iff.1 hafter
  have hdone : ∀ column ∈ done, column.name ∉ report.columnNames := fun column hcolumn =>
    hfresh column (List.mem_append_left _ hcolumn)
  obtain ⟨middle, hadded⟩ := Destination.addColumns_of_ready hready hnodup hdone
  have hextended := Destination.addColumns_ok hready.held hadded
  -- The table has the column after the additions before it.
  have hrefused : (middle.addColumn database table column).1 = .error (.duplicate column.name) := by
    refine addColumn_of_mem (hextended.ready hready) ?_
    rw [TableReport.columnNames_extend, map_name_toColumn]
    exact List.mem_append_right _ hmem
  have hhold : (adding table done).hold database c = (.ok (), middle) :=
    (Destination.hold_adding database table done c).trans hadded
  constructor
  · rw [← Destination.hold_adding, adding_append, hold_bind, hhold]
    simp only [adding, hold, hrefused]
  · rw [adding_append, addedNames_bind, addedNames_adding hadded, hhold]
    simp only [adding, addedNames, calls, hrefused]
    rfl

end Dialogue

/-! ## Ensuring columns -/

namespace Event

variable {registry : Registry} {record : Record} {event : Event}

theorem WellNamed.map_name_fields (h : event.WellNamed) :
    event.fields.map EventField.name = event.fieldNames := by
  have hbound := h.bound
  rw [fields]
  generalize event.fieldNames = names at hbound
  induction names with
  | nil => rfl
  | cons name rest ih =>
    obtain ⟨hfirst, hrest⟩ := List.forall_mem_cons.1 hbound
    obtain ⟨field, hfield⟩ := Option.isSome_iff_exists.1 hfirst
    rw [List.filterMap_cons_some hfield, List.map_cons, ih hrest, h.named name field hfield]

/-- The names in an event are those of the row's schema, then the further ones of the key's. -/
theorem exists_fieldNames_of_ofRecord (h : ofRecord registry record = .ok event) :
    ∃ s found, record.value = .struct s ∧ images s = .ok found ∧
      event.fieldNames = found.rowSchema.fieldNames ++
        (extraFields record.keySchema found.rowSchema).map Prod.fst := by
  obtain ⟨s, hvalue⟩ := exists_struct_of_ofRecord h
  obtain ⟨found, hfound, hmade⟩ := (ofRecord_eq_ok_iff hvalue).1 h
  obtain ⟨-, -, rowFields, keyFields, hrow, hkey, rfl⟩ := ofImages_eq_ok_iff.1 hmade
  exact ⟨s, found, hvalue, hfound, fieldNames_ofFields hrow hkey⟩

end Event

namespace Destination

open Dialogue

variable {database table : String} {event : Event} {d d' : Destination} {report : TableReport}
  {snapshot : TableSnapshot}

/-- A snapshot has the columns of a report, by their names. -/
def Matches (snapshot : TableSnapshot) (report : TableReport) : Prop :=
  ∀ name, name ∈ snapshot.columnNames ↔ name ∈ report.columnNames

theorem matches_ofReport (table : String) (report : TableReport) :
    Matches (.ofReport table report) report := by
  intro name
  rw [TableSnapshot.mem_columnNames, TableSnapshot.hasColumn_ofReport, TableReport.hasColumn_iff]

theorem Matches.missing_eq (h : Matches snapshot report) (table : String) (event : Event) :
    missing snapshot event = missing (.ofReport table report) event := by
  refine List.filter_congr fun field _ => ?_
  have hcolumn : snapshot.hasColumn field.name = report.hasColumn field.name := by
    rw [Bool.eq_iff_iff, ← TableSnapshot.mem_columnNames, TableReport.hasColumn_iff, h]
  rw [hcolumn, TableSnapshot.hasColumn_ofReport]

/-- The columns of a table come to be known, on the way over a destination that knows of the table
to one that knows its columns. -/
structure Learns (database table : String) (report : TableReport) (d : Destination)
    (snapshot : TableSnapshot) (confirmed learned : Destination) : Prop where
  /-- The table is there. -/
  confirm : d.confirm database table = (.ok (), confirmed)
  /-- These are its columns. -/
  current : confirmed.current database table = (.ok snapshot, learned)
  /-- Nothing can go wrong from here on. -/
  ready : learned.connection.Ready database table report
  /-- The columns are those of the table. -/
  columns : Matches snapshot report

theorem exists_learns (hready : d.connection.Ready database table report)
    (hloaded : ∀ snapshot, d.cache.slot? table = some (.loaded snapshot) →
      Matches snapshot report) :
    ∃ snapshot confirmed learned, Learns database table report d snapshot confirmed learned := by
  have hasked := hready.asked d.connection.afterLookup_asked
  have hlearnt (d : Destination) (hready : d.connection.Ready database table report) :
      (d.learnt table report).connection.Ready database table report :=
    hready.asked d.connection.afterLoad_asked
  cases hslot : d.cache.slot? table with
  | none =>
    have hunknown : (d.located table).cache.snapshot? table = none := by
      rw [TableCache.snapshot?, slot?_located]
    exact ⟨_, _, _, confirm_of_ready hready hslot, current_of_ready hasked hunknown,
      hlearnt _ hasked, matches_ofReport table report⟩
  | some cached =>
    have hconfirm := confirm_of_known database hslot
    cases cached with
    | unloaded =>
      have hunknown : d.cache.snapshot? table = none := by rw [TableCache.snapshot?, hslot]
      exact ⟨_, _, _, hconfirm, current_of_ready hready hunknown, hlearnt _ hready,
        matches_ofReport table report⟩
    | loaded snapshot =>
      exact ⟨snapshot, d, d, hconfirm, current_of_known hslot, hready, hloaded snapshot hslot⟩

theorem only_confirming_added (database table : String) (cache : TableCache) :
    (confirming database table cache).Only fun call => call.added? = none := by
  unfold confirming
  split
  · trivial
  · intro answer
    refine ⟨rfl, ?_⟩
    rcases answer with _ | _ | _
    · trivial
    · trivial
    · trivial

theorem only_loading_added (table : String) (cache : TableCache) :
    (loading table cache).Only fun call => call.added? = none := by
  intro answer
  refine ⟨rfl, ?_⟩
  cases answer with
  | error error => trivial
  | ok report => trivial

theorem only_learning_added (table : String) (cache : TableCache) :
    (learning table cache).Only fun call => call.added? = none := by
  unfold learning
  split
  · trivial
  · exact only_loading_added table cache

theorem addedNames_evolving (table : String) (fields : List EventField) (d : Destination) :
    (evolving .basic table fields d.cache).addedNames database d.connection =
      (adding table (fields.map EventField.column)).addedNames database d.connection := by
  rw [evolving, addedNames_bind]
  generalize (adding table (fields.map EventField.column)).hold database d.connection = result
  obtain ⟨_ | _, c⟩ := result
  · exact List.append_nil _
  · rw [addedNames_eq_nil (only_loading_added table d.cache), List.append_nil]

/-- Only the columns that are missing are added. -/
theorem Learns.addedNames_ensuring {confirmed learned : Destination}
    (h : Learns database table report d snapshot confirmed learned) (event : Event) :
    (ensuring database .basic table event d.cache).addedNames database d.connection =
      (adding table ((missing snapshot event).map EventField.column)).addedNames database
        learned.connection := by
  rw [ensuring, addedNames_bind, addedNames_eq_nil (only_confirming_added database table _),
    hold_confirming, h.confirm, List.nil_append]
  dsimp only [parts]
  rw [covering, addedNames_bind, addedNames_eq_nil (only_learning_added table _), hold_learning,
    h.current, List.nil_append]
  dsimp only [parts]
  cases missing snapshot event with
  | nil => rfl
  | cons field rest => exact addedNames_evolving table (field :: rest) learned

/-- Where the additions fail, so does the event. -/
theorem evolve_of_addColumns_error {fields : List EventField} {error : TransformError}
    (h : (addColumns database table (fields.map EventField.column) d.connection).1 =
      .error error) : (d.evolve database .basic table fields).1 = .error error := by
  rw [evolve]
  generalize addColumns database table (fields.map EventField.column) d.connection = result at h ⊢
  obtain ⟨answer, c⟩ := result
  cases h
  rfl

namespace Learns

variable {confirmed learned : Destination}

theorem map_name_missing (h : Learns database table report d snapshot confirmed learned)
    (event : Event) : ((missing snapshot event).map EventField.column).map NewColumn.name =
      absentNames report event := by
  rw [map_name_column, h.columns.missing_eq table, Destination.map_name_missing]

theorem fresh (h : Learns database table report d snapshot confirmed learned)
    {column : NewColumn} (hcolumn : column ∈ (missing snapshot event).map EventField.column) :
    column.name ∉ report.columnNames := by
  obtain ⟨field, hfield, rfl⟩ := List.mem_map.1 hcolumn
  rw [h.columns.missing_eq table] at hfield
  exact not_mem_of_missing hfield

/-- Where the names that the table lacks are different, all of them are added. -/
theorem of_nodup (h : Learns database table report d snapshot confirmed learned)
    (hnodup : (absentNames report event).Nodup) :
    (∃ snapshot, (d.ensureColumns database .basic table event).1 = .ok snapshot) ∧
      (ensuring database .basic table event d.cache).addedNames database d.connection =
        absentNames report event := by
  have hnames := h.map_name_missing event
  rw [← hnames] at hnodup
  have hadds := Adds.of_nodup h.ready (fun _ hcolumn => h.fresh hcolumn) hnodup
  refine ⟨?_, (h.addedNames_ensuring event).trans (hadds.names.trans hnames)⟩
  rw [ensureColumns_of_current h.confirm h.current]
  by_cases hnone : missing snapshot event = []
  · exact ⟨snapshot, by rw [if_pos hnone]⟩
  · rw [map_name_column] at hnodup
    obtain ⟨c, -, hevolve⟩ := evolve_of_ready h.ready hnodup
      fun field hfield => h.fresh (List.mem_map_of_mem (f := EventField.column) hfield)
    exact ⟨_, by rw [if_neg hnone, hevolve]⟩

/-- Where one of them comes again, it is tried a second time and the event is refused for it. -/
theorem of_repeats (h : Learns database table report d snapshot confirmed learned)
    {front : List String} {name : String}
    (hrepeats : Repeats (absentNames report event) front name) :
    (d.ensureColumns database .basic table event).1 =
        .error (.alteration name table (.duplicate name)) ∧
      (ensuring database .basic table event d.cache).addedNames database d.connection =
        front ++ [name] := by
  rw [← h.map_name_missing event] at hrepeats
  have hadds := Adds.of_repeats h.ready (fun _ hcolumn => h.fresh hcolumn) hrepeats
  have hsome : missing snapshot event ≠ [] := by
    intro hnone
    rw [hnone] at hrepeats
    exact hrepeats.not_nodup .nil
  refine ⟨?_, (h.addedNames_ensuring event).trans hadds.names⟩
  rw [ensureColumns_of_current h.confirm h.current, if_neg hsome]
  exact evolve_of_addColumns_error hadds.answer

end Learns

/-- One alteration with names that may come twice, over a table of which the right columns are known
or none.  The event succeeds just when the names that the table lacks are different, and just then
no column is added twice: all of them are added in order.  Otherwise the first name that comes again
is tried a second time, and the event is refused for it. -/
theorem ensureColumns_repeated {registry : Registry} {record : Record}
    (hevent : Event.ofRecord registry record = .ok event)
    (hready : d.connection.Ready database table report)
    (hloaded : ∀ snapshot, d.cache.slot? table = some (.loaded snapshot) →
      Matches snapshot report) :
    let dialogue := ensuring database .basic table event d.cache
    let added := dialogue.addedNames database d.connection
    let answer := (d.ensureColumns database .basic table event).1
    let absent := absentNames report event
    (∃ s found, record.value = .struct s ∧ Event.images s = .ok found ∧
      absent = (found.rowSchema.fieldNames ++
        (Event.extraFields record.keySchema found.rowSchema).map Prod.fst).filter
          fun name => name ∉ report.columnNames) ∧
    ((∃ snapshot, answer = .ok snapshot) ↔ absent.Nodup) ∧
    (added.Nodup ↔ absent.Nodup) ∧
    (absent.Nodup → added = absent) ∧
    ∀ front name, Repeats absent front name →
      answer = .error (.alteration name table (.duplicate name)) ∧ added = front ++ [name] := by
  intro dialogue added answer absent
  obtain ⟨snapshot, confirmed, learned, hlearns⟩ := exists_learns hready hloaded
  have hdistinct : absent.Nodup → (∃ snapshot, answer = .ok snapshot) ∧ added = absent :=
    hlearns.of_nodup
  have hrepeated : ∀ front name, Repeats absent front name →
      answer = .error (.alteration name table (.duplicate name)) ∧ added = front ++ [name] :=
    fun _ _ => hlearns.of_repeats
  refine ⟨?_, ?_, ?_, fun hnodup => (hdistinct hnodup).2, hrepeated⟩
  · obtain ⟨s, found, hvalue, hfound, hfields⟩ := Event.exists_fieldNames_of_ofRecord hevent
    obtain ⟨-, hnamed, -⟩ := Event.ofRecord_ok hevent
    refine ⟨s, found, hvalue, hfound, ?_⟩
    rw [← hfields, ← hnamed.map_name_fields]
    rfl
  · refine ⟨fun ⟨snapshot, hok⟩ => ?_, fun hnodup => (hdistinct hnodup).1⟩
    rcases nodup_or_repeats absent with hnodup | ⟨front, name, hrepeats⟩
    · exact hnodup
    · cases hok.symm.trans (hrepeated front name hrepeats).1
  · refine ⟨fun hadded => ?_, fun hnodup => (hdistinct hnodup).2.symm ▸ hnodup⟩
    rcases nodup_or_repeats absent with hnodup | ⟨front, name, hrepeats⟩
    · exact hnodup
    · rw [(hrepeated front name hrepeats).2] at hadded
      exact absurd rfl ((List.nodup_append.1 hadded).2.2 name hrepeats.mem name
        List.mem_cons_self)

/-! ## Schemas with a name twice -/

/-- A schema of texts with names. -/
def textFields (name : String) (names : List String) : Schema :=
  .ofFields name (names.map fun name => (name, optionalText))

/-- A record of a row whose schema has names. -/
def textRecord (names : List String) : Record :=
  .ofValue "t" 0 0 (some (textFields "row" names)) (.struct ⟨textFields "row" names, []⟩)

/-- A table with the column `a`, of which nothing is known. -/
def onlyA : Destination :=
  ofTextColumns "db" "t" ["a"] .never

theorem onlyA_ready : onlyA.connection.Ready "db" "t" ⟨"UNIQUE_KEYS", [⟨"a", "STRING", ""⟩]⟩ :=
  ⟨.never _, rfl, rfl⟩

/-- A key that has `c` twice brings it to a table of which nothing is known. -/
theorem ensureColumns_repeated_key :
    ∃ event, Event.ofRecord .builtin ((textRecord ["a", "b"]).withKey
        (some (textFields "key" ["a", "c", "c"])) .null) = .ok event ∧
      (onlyA.ensureColumns "db" .basic "t" event).1 =
        .error (.alteration "c" "t" (.duplicate "c")) ∧
      (ensuring "db" .basic "t" event onlyA.cache).addedNames "db" onlyA.connection =
        ["b", "c", "c"] := by
  obtain ⟨event, hevent⟩ : ∃ event, Event.ofRecord .builtin ((textRecord ["a", "b"]).withKey
      (some (textFields "key" ["a", "c", "c"])) .null) = .ok event := ⟨_, rfl⟩
  obtain ⟨⟨s, found, hvalue, hfound, habsent⟩, -, -, -, hrepeated⟩ :=
    ensureColumns_repeated hevent onlyA_ready nofun
  cases hvalue
  cases hfound
  have hrepeats : Repeats (absentNames _ event) ["b", "c"] "c" :=
    ⟨⟨[], habsent⟩, by decide, by decide⟩
  exact ⟨event, hevent, hrepeated _ _ hrepeats⟩

/-- A row that has `b` twice has it added twice, and is refused. -/
theorem exists_addedTwice :
    ∃ event, Event.ofRecord .builtin (textRecord ["a", "b", "b"]) = .ok event ∧
      onlyA.connection.Ready "db" "t" ⟨"UNIQUE_KEYS", [⟨"a", "STRING", ""⟩]⟩ ∧
      onlyA.cache.slot? "t" = none ∧
      (ensuring "db" .basic "t" event onlyA.cache).addedNames "db" onlyA.connection = ["b", "b"] ∧
      ¬ ∃ snapshot, (onlyA.ensureColumns "db" .basic "t" event).1 = .ok snapshot := by
  obtain ⟨event, hevent⟩ : ∃ event, Event.ofRecord .builtin (textRecord ["a", "b", "b"]) =
    .ok event := ⟨_, rfl⟩
  obtain ⟨snapshot, confirmed, learned, hlearns⟩ := exists_learns onlyA_ready nofun
  have habsent : absentNames ⟨"UNIQUE_KEYS", [⟨"a", "STRING", ""⟩]⟩ event = ["b", "b"] := by
    cases hevent
    rfl
  have hrepeats : Repeats (absentNames _ event) ["b"] "b" := ⟨⟨[], habsent⟩, by decide, by decide⟩
  obtain ⟨hrefused, hadded⟩ := hlearns.of_repeats hrepeats
  refine ⟨event, hevent, onlyA_ready, rfl, hadded, ?_⟩
  rintro ⟨answer, hok⟩
  cases hrefused.symm.trans hok

end Destination

end TableFeed
