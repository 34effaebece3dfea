import TableFeed.Destination
import TableFeed.Proofs.Table.Growth

/-!
# Adding several columns

`Destination.addColumns` adds columns one after the other up to the first that fails.
What the additions that succeed do together is `Connection.Extended`; it composes, so one
column gives any number of them (`Destination.addColumns_ok`).  A failure splits the columns
into those that were added, the one that failed and those that were not tried
(`Destination.addColumns_error`).

Conversely additions succeed where no call meets an outage when the table is there, nothing
is refused and the columns are new to it and to each other.
-/

namespace TableFeed

/-! ## What additions do -/

namespace Connection

/-- Columns were added to a table that was there, each of them new to it. -/
structure Extended (database table : String) (report : TableReport) (columns : List NewColumn)
    (c c' : Connection) : Prop where
  /-- The columns are at the end of the table. -/
  grown : c'.catalog.table? database table =
    some (report.extend (columns.map NewColumn.toColumn))
  /-- The other tables are as they were. -/
  others : ∀ database' table', (database', table') ≠ (database, table) →
    c'.catalog.table? database' table' = c.catalog.table? database' table'
  /-- Each column has left a statement. -/
  statements : c'.catalog.statements =
    c.catalog.statements ++ columns.map (Statement.addColumn database table)
  /-- The refused columns are as they were. -/
  refused : c'.catalog.refused = c.catalog.refused
  /-- Each column has taken a call. -/
  calls : c'.catalog.calls =
    { c.catalog.calls with additions := c.catalog.calls.additions + columns.length }
  /-- The outages are as they were. -/
  outages : c'.outages = c.outages
  /-- Each column has taken a try. -/
  tried : c'.tried = { c.tried with additions := c.tried.additions + columns.length }
  /-- The columns were not there before. -/
  fresh : ∀ column ∈ columns, column.name ∉ report.columnNames

namespace Extended

variable {database table : String} {report : TableReport} {c c' : Connection}

theorem nil (htable : c.catalog.table? database table = some report) :
    Extended database table report [] c c where
  grown := by simpa using htable
  others := fun _ _ _ => rfl
  statements := by simp
  refused := rfl
  calls := rfl
  outages := rfl
  tried := rfl
  fresh := by simp

/-- One column that is added. -/
theorem single {column : NewColumn} (htable : c.catalog.table? database table = some report)
    (h : c.addColumn database table column = (.ok (), c')) :
    Extended database table report [column] c c' := by
  have houtcome := c.addColumn_outcome database table column
  rw [h] at houtcome
  cases houtcome with
  | reached _ hcatalog =>
    cases hcatalog with
    | @added report' _ htable' habsent =>
      have hreport : report' = report := Option.some.inj (htable'.symm.trans htable)
      subst hreport
      refine ⟨?_, ?_, rfl, rfl, rfl, rfl, rfl, ?_⟩
      · rw [Catalog.table?_afterAddition, if_pos rfl]
        rfl
      · intro database' table' hne
        rw [Catalog.table?_afterAddition, if_neg hne]
      · intro other hother
        rw [List.mem_singleton.1 hother]
        exact TableReport.hasColumn_eq_false_iff.1 habsent

theorem trans {first second : List NewColumn} {c'' : Connection}
    (h : Extended database table report first c c')
    (h' : Extended database table (report.extend (first.map NewColumn.toColumn)) second c' c'') :
    Extended database table report (first ++ second) c c'' where
  grown := by rw [h'.grown, List.map_append, TableReport.extend_append]
  others := fun database' table' hne =>
    (h'.others database' table' hne).trans (h.others database' table' hne)
  statements := by rw [h'.statements, h.statements, List.map_append, List.append_assoc]
  refused := h'.refused.trans h.refused
  calls := by rw [h'.calls, h.calls, List.length_append, Nat.add_assoc]
  outages := h'.outages.trans h.outages
  tried := by rw [h'.tried, h.tried, List.length_append, Nat.add_assoc]
  fresh := by
    intro column hcolumn
    rcases List.mem_append.1 hcolumn with hfirst | hsecond
    · exact h.fresh column hfirst
    · have habsent := h'.fresh column hsecond
      rw [TableReport.columnNames_extend] at habsent
      exact fun hmem => habsent (List.mem_append_left _ hmem)

theorem additions {columns : List NewColumn}
    (h : Extended database table report columns c c') :
    c'.tried.additions = c.tried.additions + columns.length := by
  rw [h.tried]

theorem lookups {columns : List NewColumn}
    (h : Extended database table report columns c c') : c'.tried.lookups = c.tried.lookups := by
  rw [h.tried]

theorem loads {columns : List NewColumn}
    (h : Extended database table report columns c c') : c'.tried.loads = c.tried.loads := by
  rw [h.tried]

theorem quiet {columns : List NewColumn} (h : Extended database table report columns c c')
    (hquiet : c.Quiet) : c'.Quiet :=
  hquiet.after h.outages (Nat.le_of_eq h.lookups.symm) (Nat.le_of_eq h.loads.symm)
    (h.additions ▸ Nat.le_add_right _ _)

theorem ready {columns : List NewColumn} (h : Extended database table report columns c c')
    (hready : c.Ready database table report) :
    c'.Ready database table (report.extend (columns.map NewColumn.toColumn)) :=
  ⟨h.quiet hready.quiet, h.refused.trans hready.refused, h.grown⟩

theorem unbroken {columns : List NewColumn} {last : Connection}
    (h : Extended database table report columns c c') (hunbroken : c.Unbroken last) :
    c'.Unbroken last :=
  hunbroken.after h.outages (Nat.le_of_eq h.lookups.symm) (Nat.le_of_eq h.loads.symm)
    (h.additions ▸ Nat.le_add_right _ _)

theorem hasColumn_iff {columns : List NewColumn} {name : String}
    (h : Extended database table report columns c c') :
    c'.catalog.HasColumn database table name ↔
      name ∈ report.columnNames ∨ name ∈ columns.map NewColumn.name := by
  rw [Catalog.hasColumn_iff h.grown, TableReport.columnNames_extend, map_name_toColumn,
    List.mem_append]

end Extended

end Connection

/-! ## Runs of additions -/

namespace Destination

variable {database table : String}

theorem addColumns_cons (database table : String) (column : NewColumn) (rest : List NewColumn)
    (c : Connection) :
    addColumns database table (column :: rest) c =
      match c.addColumn database table column with
      | (.error error, c) => (.error (.alteration column.name table error), c)
      | (.ok (), c) => addColumns database table rest c := rfl

/-- Additions that all succeed. -/
theorem addColumns_ok {columns : List NewColumn} {report : TableReport} {c c' : Connection}
    (htable : c.catalog.table? database table = some report)
    (h : addColumns database table columns c = (.ok (), c')) :
    Connection.Extended database table report columns c c' := by
  induction columns generalizing c report with
  | nil =>
    cases h
    exact .nil htable
  | cons column rest ih =>
    rw [addColumns_cons] at h
    split at h
    · cases h
    · next middle hcall =>
      have hfirst := Connection.Extended.single htable hcall
      exact hfirst.trans (ih hfirst.grown h)

/-- Additions up to the first that fails. -/
theorem addColumns_error {columns : List NewColumn} {error : TransformError} {c c' : Connection}
    (h : addColumns database table columns c = (.error error, c')) :
    ∃ done column rest cause middle, columns = done ++ column :: rest ∧
      error = .alteration column.name table cause ∧
      addColumns database table done c = (.ok (), middle) ∧
      middle.addColumn database table column = (.error cause, c') := by
  induction columns generalizing c with
  | nil => cases h
  | cons column rest ih =>
    rw [addColumns_cons] at h
    split at h
    · next cause middle hcall =>
      cases h
      exact ⟨[], column, rest, cause, c, rfl, rfl, rfl, hcall⟩
    · next middle hcall =>
      obtain ⟨done, failed, untried, cause, last, hsplit, herror, hdone, hfailed⟩ := ih h
      refine ⟨column :: done, failed, untried, cause, last, ?_, herror, ?_, hfailed⟩
      · rw [hsplit, List.cons_append]
      · rw [addColumns_cons, hcall]
        exact hdone

/-- Where nothing else can go wrong, additions fail at the first column that the table has. -/
theorem addColumns_error_of_unbroken {columns : List NewColumn} {report : TableReport}
    {error : TransformError} {c c' : Connection} (hunbroken : c.Unbroken c')
    (hrefused : c.catalog.refused = []) (htable : c.catalog.table? database table = some report)
    (hdistinct : (columns.map NewColumn.name).Nodup)
    (h : addColumns database table columns c = (.error error, c')) :
    ∃ done column rest, columns = done ++ column :: rest ∧
      (∀ other ∈ done, other.name ∉ report.columnNames) ∧ column.name ∈ report.columnNames ∧
      error = .alteration column.name table (.duplicate column.name) := by
  obtain ⟨done, column, rest, cause, middle, hsplit, herror, hdone, hfailed⟩ := addColumns_error h
  have hextended := addColumns_ok htable hdone
  have houtcome := middle.addColumn_outcome database table column
  rw [hfailed] at houtcome
  cases houtcome with
  | out hout =>
    have hmiddle := hextended.unbroken hunbroken
    rw [hmiddle.addition _ (Nat.lt_succ_self _) (Nat.le_refl _)] at hout
    cases hout
  | reached _ hcatalog =>
    cases hcatalog with
    | refused hmem =>
      rw [hextended.refused, hrefused] at hmem
      cases hmem
    | notFound _ hnone =>
      rw [hextended.grown] at hnone
      cases hnone
    | duplicate _ hsome hcolumn =>
      rw [hextended.grown] at hsome
      cases hsome
      rw [TableReport.hasColumn_iff, TableReport.columnNames_extend, map_name_toColumn] at hcolumn
      refine ⟨done, column, rest, hsplit, hextended.fresh, ?_, herror⟩
      rcases List.mem_append.1 hcolumn with hreport | hearlier
      · exact hreport
      · rw [hsplit, List.map_append, List.map_cons] at hdistinct
        have hdisjoint := (List.nodup_append.1 hdistinct).2.2
        exact absurd rfl (hdisjoint _ hearlier _ List.mem_cons_self)

/-- New columns are added where nothing else can go wrong. -/
theorem addColumns_of_ready {columns : List NewColumn} {report : TableReport} {c : Connection}
    (hready : c.Ready database table report)
    (hdistinct : (columns.map NewColumn.name).Nodup)
    (hfresh : ∀ column ∈ columns, column.name ∉ report.columnNames) :
    ∃ c', addColumns database table columns c = (.ok (), c') := by
  rcases hrun : addColumns database table columns c with ⟨_ | _, c'⟩
  · obtain ⟨done, column, rest, hsplit, -, hmem, -⟩ :=
      addColumns_error_of_unbroken (hready.quiet.unbroken c') hready.refused hready.held hdistinct
        hrun
    exact absurd hmem (hfresh column (by rw [hsplit]; simp))
  · exact ⟨c', rfl⟩

/-- Additions only make calls. -/
theorem addColumns_later {columns : List NewColumn} {answer : Except TransformError Unit}
    {c c' : Connection} (h : addColumns database table columns c = (answer, c')) :
    c.Later c' := by
  induction columns generalizing c with
  | nil =>
    cases h
    exact .refl _
  | cons column rest ih =>
    have hstep := Connection.Later.step (.addition c database table column)
    rw [addColumns_cons] at h
    split at h
    · next hcall =>
      cases h
      rwa [hcall] at hstep
    · next middle hcall =>
      rw [hcall] at hstep
      exact hstep.trans (ih h)

end Destination

end TableFeed
