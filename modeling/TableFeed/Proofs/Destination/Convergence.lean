import TableFeed.Proofs.Destination.Ready

/-!
# Convergence to the union of the fields

Where nothing is out and nothing is refused, a sequence of events brings a table to the
union of its columns and the fields of the events.  `ensureAll_converges` says so with the
order of the columns, with the field that each of them is made of, and with the number of
calls that it takes: one look-up, one load and another for each event that introduces a
name, and one addition for each new name.

The first event finds the cache without the table.  From then on the cache is in step with
the table, which `Synced` says; each event keeps it so, and the union is built up by
appending what is new to the event (`newFields_append`).
-/

namespace TableFeed.Destination

/-! ## New fields -/

/-- The fields whose names are not known, each name once and where it first comes. -/
def newFields (known : List String) : List EventField → List EventField
  | [] => []
  | field :: rest =>
    if field.name ∈ known then newFields known rest
    else field :: newFields (known ++ [field.name]) rest

/-- The number of events that have a field whose name is neither known nor in an event before. -/
def introducing (known : List String) : List Event → Nat
  | [] => 0
  | event :: rest =>
    (if ∀ field ∈ event.fields, field.name ∈ known then 0 else 1) +
      introducing (known ++ event.fields.map EventField.name) rest

theorem newFields_append (known : List String) (first second : List EventField) :
    newFields known (first ++ second) = newFields known first ++
      newFields (known ++ (newFields known first).map EventField.name) second := by
  induction first generalizing known with
  | nil => simp [newFields]
  | cons field rest ih =>
    rw [List.cons_append, newFields, newFields]
    split
    · exact ih known
    · rw [ih, List.cons_append, List.map_cons, List.append_assoc, List.singleton_append]

/-- Among fields with different names those are new whose names are not known. -/
theorem newFields_of_nodup {known : List String} {fields : List EventField}
    (hdistinct : (fields.map EventField.name).Nodup) :
    newFields known fields = fields.filter fun field => field.name ∉ known := by
  induction fields generalizing known with
  | nil => rfl
  | cons field rest ih =>
    obtain ⟨hfirst, hrest⟩ := List.nodup_cons.1 hdistinct
    rw [newFields]
    split
    · next hmem => rw [ih hrest, List.filter_cons_of_neg (by simpa using hmem)]
    · next hnew =>
      rw [ih hrest, List.filter_cons_of_pos (by simpa using hnew)]
      congr 1
      refine List.filter_congr fun other hother => ?_
      have hne : other.name ≠ field.name := by
        intro heq
        exact hfirst (heq ▸ List.mem_map_of_mem hother)
      simp [hne]

/-- The names of the new fields are the unknown names, each where it first comes. -/
theorem map_name_newFields (known : List String) (fields : List EventField) :
    (newFields known fields).map EventField.name =
      ((fields.map EventField.name).filter fun name => name ∉ known).eraseDups := by
  induction fields generalizing known with
  | nil => rfl
  | cons field rest ih =>
    rw [newFields, List.map_cons]
    split
    · next hmem => rw [ih, List.filter_cons_of_neg (by simpa using hmem)]
    · next hnew =>
      rw [List.map_cons, ih, List.filter_cons_of_pos (by simpa using hnew), List.eraseDups_cons,
        List.filter_filter]
      congr 2
      refine List.filter_congr fun name _ => ?_
      by_cases heq : name = field.name
      · simp [heq]
      · simp [heq]

theorem not_mem_of_mem_newFields {known : List String} {fields : List EventField}
    {field : EventField} (h : field ∈ newFields known fields) : field.name ∉ known := by
  have hname := List.mem_map_of_mem (f := EventField.name) h
  rw [map_name_newFields, List.mem_eraseDups, List.mem_filter] at hname
  simpa using hname.2

/-- A new field is the first with its name. -/
theorem find?_of_mem_newFields {known : List String} {fields : List EventField}
    {field : EventField} (h : field ∈ newFields known fields) :
    fields.find? (fun other => other.name == field.name) = some field := by
  induction fields generalizing known with
  | nil => cases h
  | cons first rest ih =>
    have hunknown := not_mem_of_mem_newFields h
    rw [newFields] at h
    split at h
    · next hmem =>
      have hne : first.name ≠ field.name := fun heq => hunknown (heq ▸ hmem)
      rw [List.find?_cons_of_neg (by simpa using hne)]
      exact ih h
    · rcases List.mem_cons.1 h with rfl | htail
      · exact List.find?_cons_of_pos (beq_self_eq_true _)
      · have hlater := not_mem_of_mem_newFields htail
        have hne : first.name ≠ field.name := by
          intro heq
          exact hlater (by simp [heq])
        rw [List.find?_cons_of_neg (by simpa using hne)]
        exact ih htail

/-- Once the new names are known, all names are. -/
theorem mem_append_newFields {known : List String} {fields : List EventField} {name : String} :
    name ∈ known ++ (newFields known fields).map EventField.name ↔
      name ∈ known ++ fields.map EventField.name := by
  rw [map_name_newFields, List.mem_append, List.mem_append, List.mem_eraseDups, List.mem_filter]
  by_cases hknown : name ∈ known
  · simp [hknown]
  · simp [hknown]

theorem newFields_eq_nil_iff {known : List String} {fields : List EventField} :
    newFields known fields = [] ↔ ∀ field ∈ fields, field.name ∈ known := by
  induction fields with
  | nil => simp [newFields]
  | cons field rest ih =>
    rw [newFields, List.forall_mem_cons]
    split
    · next hmem => rw [ih, and_iff_right hmem]
    · next hnew => simp [hnew]

/-- Only which names are known matters. -/
theorem introducing_congr {known known' : List String} (events : List Event)
    (h : ∀ name, name ∈ known ↔ name ∈ known') :
    introducing known events = introducing known' events := by
  induction events generalizing known known' with
  | nil => rfl
  | cons event rest ih =>
    have hrest : ∀ name, name ∈ known ++ event.fields.map EventField.name ↔
        name ∈ known' ++ event.fields.map EventField.name := by
      intro name
      rw [List.mem_append, List.mem_append, h]
    rw [introducing, introducing, ih hrest]
    simp only [h]

/-! ## A cache in step with its table -/

/-- The cache has the columns of a table as they are. -/
structure Synced (database table : String) (report : TableReport) (d : Destination) : Prop where
  /-- The table has these columns, and nothing can go wrong. -/
  ready : d.connection.Ready database table report
  /-- The cache has them too. -/
  slot : d.cache.slot? table = some (.loaded (.ofReport table report))

/-- The calls after those for new columns: one for each, and a load if there are any. -/
def callsAfter (calls : CallCounts) (loads additions : Nat) : CallCounts :=
  { calls with loads := calls.loads + loads, additions := calls.additions + additions }

variable {database table : String} {report : TableReport} {event : Event} {d : Destination}

theorem missing_ofReport (table : String) (report : TableReport)
    (hdistinct : (event.fields.map EventField.name).Nodup) :
    missing (.ofReport table report) event = newFields report.columnNames event.fields := by
  rw [newFields_of_nodup hdistinct, missing]
  refine List.filter_congr fun field _ => ?_
  rw [TableSnapshot.hasColumn_ofReport]
  cases hcolumn : report.hasColumn field.name with
  | true => simpa using TableReport.hasColumn_iff.1 hcolumn
  | false => simpa using TableReport.hasColumn_eq_false_iff.1 hcolumn

@[simp] theorem withFields_nil (report : TableReport) : withFields report [] = report :=
  TableReport.extend_nil report

theorem withFields_append (report : TableReport) (first second : List EventField) :
    withFields report (first ++ second) = withFields (withFields report first) second := by
  rw [withFields, List.map_append, List.map_append, TableReport.extend_append]
  rfl

/-- An event keeps the cache in step with the table. -/
theorem Synced.ensureColumns (hsynced : d.Synced database table report)
    (hdistinct : (event.fields.map EventField.name).Nodup) :
    ∃ d', d.ensureColumns database .basic table event = (.ok (.ofReport table
        (withFields report (newFields report.columnNames event.fields))), d') ∧
      d'.Synced database table (withFields report (newFields report.columnNames event.fields)) ∧
      d'.connection.catalog.calls = callsAfter d.connection.catalog.calls
        (if ∀ field ∈ event.fields, field.name ∈ report.columnNames then 0 else 1)
        (newFields report.columnNames event.fields).length := by
  have hmissing := missing_ofReport table report hdistinct
  rw [ensureColumns_of_known hsynced.slot, hmissing]
  by_cases hnone : newFields report.columnNames event.fields = []
  · rw [if_pos hnone, if_pos (newFields_eq_nil_iff.1 hnone), hnone]
    refine ⟨d, by rw [withFields_nil], by rwa [withFields_nil], rfl⟩
  · rw [if_neg hnone, if_neg (mt newFields_eq_nil_iff.2 hnone)]
    have hnames := nodup_missing (.ofReport table report) hdistinct
    rw [hmissing] at hnames
    obtain ⟨c, hextended, hevolved⟩ := evolve_of_ready hsynced.ready hnames
      fun field hfield => not_mem_of_mem_newFields hfield
    refine ⟨_, hevolved, ⟨?_, ?_⟩, ?_⟩
    · exact (hextended.ready hsynced.ready).asked c.afterLoad_asked
    · rw [TableCache.slot?_set, if_pos rfl]
    · have hcalls : c.afterLoad.catalog.calls =
          { c.catalog.calls with loads := c.catalog.calls.loads + 1 } := rfl
      rw [hcalls, hextended.calls, List.length_map]
      rfl

/-! ## Sequences of events -/

/-- Makes sure that a table has the columns for events one after the other. -/
def ensureAll (database table : String) :
    List Event → Destination → List (Except TransformError TableSnapshot) × Destination
  | [], d => ([], d)
  | event :: rest, d =>
    let (answer, d) := d.ensureColumns database .basic table event
    let (answers, d) := ensureAll database table rest d
    (answer :: answers, d)

theorem ensureAll_cons (events : List Event) {d d' : Destination}
    {answer : Except TransformError TableSnapshot}
    (h : d.ensureColumns database .basic table event = (answer, d')) :
    ensureAll database table (event :: events) d = (answer ::
      (ensureAll database table events d').1, (ensureAll database table events d').2) := by
  simp only [ensureAll, h]

/-- Any number of events keeps the cache in step with the table. -/
theorem Synced.ensureAll (hsynced : d.Synced database table report) {events : List Event}
    (hdistinct : ∀ event ∈ events, (event.fields.map EventField.name).Nodup) :
    ∃ answers d', Destination.ensureAll database table events d = (answers, d') ∧
      answers.length = events.length ∧
      (∀ answer ∈ answers, ∃ snapshot, answer = .ok snapshot) ∧
      d'.Synced database table
        (withFields report (newFields report.columnNames (events.flatMap Event.fields))) ∧
      d'.connection.catalog.calls = callsAfter d.connection.catalog.calls
        (introducing report.columnNames events)
        (newFields report.columnNames (events.flatMap Event.fields)).length := by
  -- Each event may extend the table, so the report varies along with the destination.
  induction events generalizing d report with
  | nil => exact ⟨[], d, rfl, rfl, by simp, by simpa [newFields] using hsynced, rfl⟩
  | cons event rest ih =>
    obtain ⟨hfirst, hrest⟩ := List.forall_mem_cons.1 hdistinct
    obtain ⟨middle, hensured, hmiddle, hcalls⟩ := hsynced.ensureColumns hfirst
    obtain ⟨answers, d', hall, hlength, hsucceeded, hend, hmore⟩ := ih hmiddle hrest
    have hwhole := ensureAll_cons rest hensured
    rw [hall] at hwhole
    refine ⟨_, d', hwhole, ?_, ?_, ?_, ?_⟩
    · rw [List.length_cons, hlength, List.length_cons]
    · exact List.forall_mem_cons.2 ⟨⟨_, rfl⟩, hsucceeded⟩
    · rw [List.flatMap_cons, newFields_append, withFields_append]
      rwa [columnNames_withFields] at hend
    · rw [hmore, hcalls, List.flatMap_cons, newFields_append, List.length_append,
        columnNames_withFields, introducing,
        introducing_congr rest fun name => mem_append_newFields]
      simp only [callsAfter, Nat.add_assoc]

/-! ## From a fresh destination -/

/-- The first event finds out about the table before it is treated like any other. -/
theorem ensureAll_of_fresh {events : List Event}
    (hready : d.connection.Ready database table report)
    (hslot : d.cache.slot? table = none) (hne : events ≠ []) :
    ensureAll database table events d =
      ensureAll database table events ((d.located table).learnt table report) := by
  cases events with
  | nil => exact absurd rfl hne
  | cons event rest =>
    have hlocated := hready.asked d.connection.afterLookup_asked
    have hensured : d.ensureColumns database .basic table event =
        ((d.located table).learnt table report).ensureColumns database .basic table event := by
      rw [ensureColumns_of_absent hready hslot]
      exact ensureColumns_of_unloaded hlocated (slot?_located table d)
    simp only [ensureAll, hensured]

/-- Where nothing is out and nothing is refused, every event of a sequence succeeds, and the table
ends with the columns that it had and a column for each new name in the order in which the names
first come, made of the first field with the name.  The cache then has the same columns.  It takes
one look-up, one load and another for each event that introduces a name, and one addition for each
new name. -/
theorem ensureAll_converges {catalog : Catalog} {events : List Event}
    (hheld : catalog.table? database table = some report) (hrefused : catalog.refused = [])
    (hne : events ≠ []) (hdistinct : ∀ event ∈ events, (event.fields.map EventField.name).Nodup) :
    ∃ answers d, ∃ added : List EventField,
      ensureAll database table events (ofCatalog catalog .never) = (answers, d) ∧
      answers.length = events.length ∧
      (∀ answer ∈ answers, ∃ snapshot, answer = .ok snapshot) ∧
      added.map EventField.name = (((events.flatMap Event.fields).map EventField.name).filter
        fun name => name ∉ report.columnNames).eraseDups ∧
      (∀ field ∈ added, (events.flatMap Event.fields).find?
        (fun other => other.name == field.name) = some field) ∧
      d.connection.catalog.table? database table = some
        { report with
          columns := report.columns ++ added.map fun field =>
            { name := field.name
              typeName := field.type.columnType field.schema
              comment := field.schema.doc.getD "" } } ∧
      (∃ snapshot, d.cache.slot? table = some (.loaded snapshot) ∧ ∀ name,
        name ∈ snapshot.columnNames ↔ name ∈ report.columnNames ++ added.map EventField.name) ∧
      d.connection.catalog.calls =
        { lookups := catalog.calls.lookups + 1
          loads := catalog.calls.loads + (1 + introducing report.columnNames events)
          additions := catalog.calls.additions + added.length } := by
  have hready : (ofCatalog catalog .never).connection.Ready database table report :=
    ⟨.never catalog, hrefused, hheld⟩
  have hlocated := hready.asked (Connection.afterLookup_asked _)
  have hsynced : Synced database table report
      (((ofCatalog catalog .never).located table).learnt table report) :=
    ⟨hlocated.asked (Connection.afterLoad_asked _), slot?_learnt _ _ _⟩
  obtain ⟨answers, d, hall, hlength, hsucceeded, hend, hcalls⟩ := hsynced.ensureAll hdistinct
  refine ⟨answers, d, _, (ensureAll_of_fresh hready rfl hne).trans hall, hlength, hsucceeded,
    map_name_newFields _ _, fun _ => find?_of_mem_newFields, ?_, ⟨_, hend.slot, fun name => ?_⟩, ?_⟩
  · rw [hend.ready.held, withFields_eq]
  · rw [TableSnapshot.mem_columnNames, TableSnapshot.hasColumn_ofReport, TableReport.hasColumn_iff,
      columnNames_withFields]
  · rw [hcalls, ← Nat.add_assoc]
    rfl

/-- The event of a row of a text and a count that has a description. -/
def countEvent : Event :=
  let count := (Schema.ofKind .int64).withDoc "how many"
  { topic := "t"
    byName := [("a", ⟨"a", optionalText, .string, false⟩), ("b", ⟨"b", count, .int64, false⟩)]
    fieldNames := ["a", "b"]
    nonKeyNames := ["a", "b"]
    before := none
    after := some ⟨.ofFields "row" [("a", optionalText), ("b", count)], []⟩ }

/-- Two events that bring `b` and `c` to a table with `a` take two additions and three loads.  The
column `b` is that of the event that comes first, although `b` is a text in the other. -/
theorem ensureAll_converges_two_names :
    let catalog := (ofTextColumns "db" "t" ["a"] .never).connection.catalog
    let events := [countEvent, textEvent "t" ["c", "b", "a"]]
    ∃ answers d, ensureAll "db" "t" events (ofCatalog catalog .never) = (answers, d) ∧
      d.connection.catalog.table? "db" "t" = some
        ⟨"UNIQUE_KEYS", [⟨"a", "STRING", ""⟩, ⟨"b", "BIGINT", "how many"⟩, ⟨"c", "STRING", ""⟩]⟩ ∧
      d.connection.catalog.calls = ⟨1, 3, 2⟩ := by
  intro catalog events
  have hheld : catalog.table? "db" "t" = some ⟨"UNIQUE_KEYS", [⟨"a", "STRING", ""⟩]⟩ := rfl
  have hdistinct : ∀ event ∈ events, (event.fields.map EventField.name).Nodup := by decide
  obtain ⟨answers, d, added, hall, -, -, hnames, hfirst, htable, -, hcalls⟩ :=
    ensureAll_converges hheld rfl (List.cons_ne_nil _ _) hdistinct
  have hadded : added.map EventField.name = ["b", "c"] := hnames.trans (by decide)
  obtain ⟨b, _, rfl, hb, hrest⟩ := List.map_eq_cons_iff.1 hadded
  obtain ⟨c, _, rfl, hc, hnil⟩ := List.map_eq_cons_iff.1 hrest
  cases List.map_eq_nil_iff.1 hnil
  have hfindb := hfirst b (by simp)
  have hfindc := hfirst c (by simp)
  rw [hb] at hfindb
  rw [hc] at hfindc
  cases hfindb
  cases hfindc
  exact ⟨answers, d, hall, htable, hcalls⟩

end TableFeed.Destination
