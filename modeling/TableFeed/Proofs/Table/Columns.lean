import TableFeed.Table.Column

/-!
# The columns of reports and snapshots

A report lists the columns of a table in order, and a snapshot holds the same columns by
name.  `TableSnapshot.hasColumn_ofReport` says that the two agree on which names there
are, whether or not the report names a column twice.

A table grows at its end only: `TableReport.extend` is what several additions make of a
report.
-/

namespace TableFeed

/-! ## Maps of lists -/

namespace SortedMap

variable {α : Type}

private theorem isSome_get?_foldl_insert (entries : List (String × α)) (map : SortedMap α)
    (key : String) :
    ((entries.foldl (fun map entry => map.insert entry.1 entry.2) map).get? key).isSome = true ↔
      key ∈ entries.map Prod.fst ∨ (map.get? key).isSome = true := by
  induction entries generalizing map with
  | nil => simp
  | cons entry rest ih =>
    rw [List.foldl_cons, ih, get?_insert, List.map_cons, List.mem_cons]
    by_cases h : key = entry.1
    · simp [h]
    · simp [h]

/-- A key is bound in the map of a list exactly when the list binds it. -/
theorem isSome_get?_ofList (entries : List (String × α)) (key : String) :
    ((ofList entries).get? key).isSome = true ↔ key ∈ entries.map Prod.fst := by
  rw [ofList, isSome_get?_foldl_insert, get?_empty]
  simp

private theorem mem_of_get?_foldl_insert {entries : List (String × α)} {map : SortedMap α}
    {key : String} {value : α}
    (h : (entries.foldl (fun map entry => map.insert entry.1 entry.2) map).get? key = some value) :
    (key, value) ∈ entries ∨ map.get? key = some value := by
  induction entries generalizing map with
  | nil => exact .inr h
  | cons entry rest ih =>
    rcases ih h with hrest | hinsert
    · exact .inl (List.mem_cons_of_mem _ hrest)
    · rw [get?_insert] at hinsert
      split at hinsert
      · next heq =>
        cases hinsert
        exact .inl (heq ▸ List.mem_cons_self)
      · exact .inr hinsert

/-- What the map of a list has under a key stands in the list. -/
theorem mem_of_get?_ofList {entries : List (String × α)} {key : String} {value : α}
    (h : (ofList entries).get? key = some value) : (key, value) ∈ entries := by
  rcases mem_of_get?_foldl_insert h with hmem | hnone
  · exact hmem
  · cases hnone

/-- The keys are those that are bound. -/
theorem mem_keys {map : SortedMap α} {key : String} :
    key ∈ map.keys ↔ (map.get? key).isSome = true := by
  simp [keys, get?, List.lookup_isSome_iff]

end SortedMap

/-! ## Reports -/

namespace TableReport

/-- The report with columns at the end. -/
def extend (report : TableReport) (columns : List Column) : TableReport :=
  { report with columns := report.columns ++ columns }

@[simp] theorem extend_nil (report : TableReport) : report.extend [] = report := by
  simp [extend]

theorem extend_append (report : TableReport) (first second : List Column) :
    report.extend (first ++ second) = (report.extend first).extend second := by
  simp [extend]

@[simp] theorem columnNames_extend (report : TableReport) (columns : List Column) :
    (report.extend columns).columnNames = report.columnNames ++ columns.map Column.name := by
  simp [columnNames, extend]

theorem hasColumn_iff {report : TableReport} {name : String} :
    report.hasColumn name = true ↔ name ∈ report.columnNames := by
  simp [hasColumn, columnNames]

theorem hasColumn_eq_false_iff {report : TableReport} {name : String} :
    report.hasColumn name = false ↔ name ∉ report.columnNames := by
  rw [← hasColumn_iff, Bool.not_eq_true]

end TableReport

theorem map_name_toColumn (columns : List NewColumn) :
    (columns.map NewColumn.toColumn).map Column.name = columns.map NewColumn.name := by
  rw [List.map_map]
  rfl

/-! ## Snapshots -/

theorem TableSnapshot.mem_columnNames {snapshot : TableSnapshot} {name : String} :
    name ∈ snapshot.columnNames ↔ snapshot.hasColumn name = true :=
  SortedMap.mem_keys

/-- The snapshot of a report has the columns of the report. -/
@[simp] theorem TableSnapshot.hasColumn_ofReport (table : String) (report : TableReport)
    (name : String) : (ofReport table report).hasColumn name = report.hasColumn name := by
  rw [Bool.eq_iff_iff, TableReport.hasColumn_iff]
  simp only [hasColumn, ofReport]
  rw [SortedMap.isSome_get?_ofList, List.map_map]
  rfl

/-- The columns of a snapshot are columns of the report. -/
theorem TableSnapshot.mem_columns_of_get? {table name : String} {report : TableReport}
    {column : Column} (h : (ofReport table report).columns.get? name = some column) :
    column ∈ report.columns := by
  obtain ⟨other, hother, hpair⟩ := List.mem_map.1 (SortedMap.mem_of_get?_ofList h)
  cases hpair
  exact hother

end TableFeed
