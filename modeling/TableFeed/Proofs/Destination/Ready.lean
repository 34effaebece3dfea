import TableFeed.Proofs.Destination.Coherence

/-!
# Ensuring columns where nothing is out

Over a connection that is `Connection.Ready` every question about the table is answered and
new columns are added, so it is known beforehand what ensuring columns does: a table of
which nothing is known is located, its columns are learnt, and what is missing is added
(`evolve_of_ready`).
-/

namespace TableFeed.Destination

variable {database table : String} {evolution : Evolution} {event : Event} {d : Destination}
  {report : TableReport} {snapshot : TableSnapshot}

/-! ## Questions -/

theorem confirm_of_known (database : String) {cached : CachedTable}
    (hslot : d.cache.slot? table = some cached) : d.confirm database table = (.ok (), d) := by
  simp [confirm, TableCache.isKnown, hslot]

theorem confirm_of_ready (hready : d.connection.Ready database table report)
    (hslot : d.cache.slot? table = none) :
    d.confirm database table =
      (.ok (), ⟨d.connection.afterLookup, d.cache.set table .unloaded⟩) := by
  simp [confirm, TableCache.isKnown, hslot, Connection.tableExists_of_quiet hready.quiet,
    hready.held]

theorem load_of_ready (hready : d.connection.Ready database table report) :
    d.load database table = (.ok (.ofReport table report),
      ⟨d.connection.afterLoad, d.cache.set table (.loaded (.ofReport table report))⟩) := by
  simp [load, Connection.loadTable_of_quiet hready.quiet hready.held]

theorem current_of_known (hslot : d.cache.slot? table = some (.loaded snapshot)) :
    d.current database table = (.ok snapshot, d) := by
  simp [current, TableCache.snapshot?, hslot]

theorem current_of_ready (hready : d.connection.Ready database table report)
    (hunknown : d.cache.snapshot? table = none) :
    d.current database table = (.ok (.ofReport table report),
      ⟨d.connection.afterLoad, d.cache.set table (.loaded (.ofReport table report))⟩) := by
  simp only [current, hunknown]
  exact load_of_ready hready

/-! ## Additions -/

theorem map_name_column (fields : List EventField) :
    (fields.map EventField.column).map NewColumn.name = fields.map EventField.name := by
  rw [List.map_map]
  rfl

/-- The report of a table with columns for fields at its end. -/
def withFields (report : TableReport) (fields : List EventField) : TableReport :=
  report.extend ((fields.map EventField.column).map NewColumn.toColumn)

/-- A column for a field has the field's name, the column type of its type, and its description for
a comment. -/
theorem withFields_eq (report : TableReport) (fields : List EventField) :
    withFields report fields =
      { report with
        columns := report.columns ++ fields.map fun field =>
          { name := field.name
            typeName := field.type.columnType field.schema
            comment := field.schema.doc.getD "" } } := by
  rw [withFields, List.map_map]
  rfl

@[simp] theorem columnNames_withFields (report : TableReport) (fields : List EventField) :
    (withFields report fields).columnNames = report.columnNames ++ fields.map EventField.name := by
  rw [withFields, TableReport.columnNames_extend, map_name_toColumn, map_name_column]

/-- An addition that fails leaves the columns of the fields before it. -/
theorem addColumns_error_of_fields {fields : List EventField} {error : TransformError}
    {c c' : Connection} (hheld : c.catalog.table? database table = some report)
    (h : addColumns database table (fields.map EventField.column) c = (.error error, c')) :
    ∃ done field rest cause, fields = done ++ field :: rest ∧
      error = .alteration field.name table cause ∧
      c'.catalog.table? database table = some (withFields report done) ∧
      c'.catalog.refused = c.catalog.refused ∧
      c'.tried.additions = c.tried.additions + done.length + 1 := by
  obtain ⟨added, column, untried, cause, middle, hsplit, herror, hdone, hfailed⟩ :=
    addColumns_error h
  obtain ⟨done, others, rfl, rfl, hothers⟩ := List.map_eq_append_iff.1 hsplit
  obtain ⟨field, rest, rfl, rfl, rfl⟩ := List.map_eq_cons_iff.1 hothers
  have hextended := addColumns_ok hheld hdone
  have hcall := middle.addColumn_outcome database table field.column
  rw [hfailed] at hcall
  obtain ⟨hagrees, -, htried⟩ := hcall.failed
  refine ⟨done, field, rest, cause, rfl, herror, ?_, ?_, ?_⟩
  · exact (hagrees.table? database table).trans hextended.grown
  · exact hagrees.refused.trans hextended.refused
  · rw [htried, hextended.additions, List.length_map]

theorem evolve_of_ready {fields : List EventField}
    (hready : d.connection.Ready database table report)
    (hdistinct : (fields.map EventField.name).Nodup)
    (hfresh : ∀ field ∈ fields, field.name ∉ report.columnNames) :
    ∃ c, Connection.Extended database table report (fields.map EventField.column) d.connection c ∧
      d.evolve database .basic table fields =
        (.ok (.ofReport table (withFields report fields)),
          ⟨c.afterLoad,
            d.cache.set table (.loaded (.ofReport table (withFields report fields)))⟩) := by
  have hcolumns : ∀ column ∈ fields.map EventField.column, column.name ∉ report.columnNames := by
    intro column hcolumn
    obtain ⟨field, hfield, rfl⟩ := List.mem_map.1 hcolumn
    exact hfresh field hfield
  rw [← map_name_column] at hdistinct
  obtain ⟨c, hadded⟩ := addColumns_of_ready hready hdistinct hcolumns
  have hextended := addColumns_ok hready.held hadded
  refine ⟨c, hextended, ?_⟩
  simp only [evolve, hadded]
  exact load_of_ready (hextended.ready hready)

/-! ## The whole -/

/-- What is done where the columns of the table are known. -/
theorem ensureColumns_of_known (hslot : d.cache.slot? table = some (.loaded snapshot)) :
    d.ensureColumns database evolution table event =
      if missing snapshot event = [] then (.ok snapshot, d)
      else d.evolve database evolution table (missing snapshot event) :=
  ensureColumns_of_current (confirm_of_known database hslot) (current_of_known hslot)

/-- The destination after the columns of a table were loaded. -/
def learnt (table : String) (report : TableReport) (d : Destination) : Destination :=
  ⟨d.connection.afterLoad, d.cache.set table (.loaded (.ofReport table report))⟩

@[simp] theorem slot?_learnt (table : String) (report : TableReport) (d : Destination) :
    (d.learnt table report).cache.slot? table = some (.loaded (.ofReport table report)) := by
  rw [learnt, TableCache.slot?_set, if_pos rfl]

/-- The destination after a table was found. -/
def located (table : String) (d : Destination) : Destination :=
  ⟨d.connection.afterLookup, d.cache.set table .unloaded⟩

@[simp] theorem slot?_located (table : String) (d : Destination) :
    (d.located table).cache.slot? table = some .unloaded := by
  rw [located, TableCache.slot?_set, if_pos rfl]

/-- A table that is known to exist has its columns loaded first. -/
theorem ensureColumns_of_unloaded (hready : d.connection.Ready database table report)
    (hslot : d.cache.slot? table = some .unloaded) :
    d.ensureColumns database evolution table event =
      (d.learnt table report).ensureColumns database evolution table event := by
  have hunknown : d.cache.snapshot? table = none := by rw [TableCache.snapshot?, hslot]
  rw [ensureColumns_of_known (slot?_learnt table report d)]
  exact ensureColumns_of_current (confirm_of_known database hslot)
    (current_of_ready hready hunknown)

/-- A table of which nothing is known is looked up first. -/
theorem ensureColumns_of_absent (hready : d.connection.Ready database table report)
    (hslot : d.cache.slot? table = none) :
    d.ensureColumns database evolution table event =
      (d.located table).ensureColumns database evolution table event := by
  have hconfirm := confirm_of_ready hready hslot
  have hknown := confirm_of_known database (slot?_located table d)
  rw [ensureColumns, ensureColumns, hconfirm, hknown]
  rfl

/-! ## Missing fields -/

theorem nodup_missing (snapshot : TableSnapshot)
    (hdistinct : (event.fields.map EventField.name).Nodup) :
    ((missing snapshot event).map EventField.name).Nodup :=
  hdistinct.sublist (List.filter_sublist.map EventField.name)

/-- What is missing from the columns of a table is new to it. -/
theorem not_mem_of_missing {field : EventField}
    (hfield : field ∈ missing (.ofReport table report) event) :
    field.name ∉ report.columnNames := by
  have hlacks := (mem_missing.1 hfield).2
  rwa [TableSnapshot.hasColumn_ofReport, TableReport.hasColumn_eq_false_iff] at hlacks

end TableFeed.Destination
