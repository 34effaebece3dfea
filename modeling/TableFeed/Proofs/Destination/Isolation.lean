import TableFeed.Proofs.Destination.Confinement
import TableFeed.Proofs.Destination.Ensured
import TableFeed.Proofs.Table.Statement

/-!
# Tables do not interfere

Two destinations are *alike in a table* (`Destination.Alike`) when their catalogs have the
same of the table, the same statements have altered it, and the caches know the same of it.
Nothing else need be the same, neither the other tables nor the numbers of calls.

Ensuring columns of the table keeps them alike, with the same answer in both
(`Alike.ensureColumns`), and ensuring columns of another table in one of them keeps them
alike as well (`Alike.apart`).  Neither connection may meet an outage: calls are numbered
across all tables, and so an outage that names a number would be met in one run by one
table and in another run by another.
-/

namespace TableFeed

/-- Two results are the same, and the states after them are related. -/
def Matching {α σ : Type} (R : σ → σ → Prop) (left right : α × σ) : Prop :=
  left.1 = right.1 ∧ R left.2 right.2

theorem Matching.exists {α σ : Type} {R : σ → σ → Prop} {left right : α × σ}
    (h : Matching R left right) :
    ∃ result s s', left = (result, s) ∧ right = (result, s') ∧ R s s' :=
  ⟨left.1, left.2, right.2, rfl, Prod.ext h.1.symm rfl, h.2⟩

variable {database table : String}

/-! ## Catalogs -/

namespace Catalog

/-- The statements that altered a table, oldest first. -/
def statementsFor (catalog : Catalog) (database table : String) : List String :=
  catalog.statements.filter fun statement => Statement.target? statement = some (database, table)

/-- Two catalogs have the same of a table, and refuse the same columns. -/
structure Alike (database table : String) (left right : Catalog) : Prop where
  report : left.table? database table = right.table? database table
  statements : left.statementsFor database table = right.statementsFor database table
  refused : left.refused = right.refused

variable {left right : Catalog}

theorem Agrees.alike (h : left.Agrees right) : Alike database table left right where
  report := h.table? database table
  statements := by rw [statementsFor, statementsFor, h.statements]
  refused := h.refused

namespace Alike

theorem symm (h : Alike database table left right) : Alike database table right left :=
  ⟨h.report.symm, h.statements.symm, h.refused.symm⟩

theorem trans {first second third : Catalog} (h : Alike database table first second)
    (h' : Alike database table second third) : Alike database table first third :=
  ⟨h.report.trans h'.report, h.statements.trans h'.statements, h.refused.trans h'.refused⟩

theorem countAddition (h : Alike database table left right) :
    Alike database table left.countAddition right.countAddition :=
  ⟨h.report, h.statements, h.refused⟩

theorem afterAddition (h : Alike database table left right) (report : TableReport)
    (column : NewColumn) :
    Alike database table (left.afterAddition database table report column)
      (right.afterAddition database table report column) := by
  refine ⟨?_, ?_, h.refused⟩
  · rw [table?_afterAddition, table?_afterAddition, if_pos rfl, if_pos rfl]
  · have hstatements := h.statements
    simp only [statementsFor] at hstatements ⊢
    simp only [Catalog.afterAddition, List.filter_append, hstatements]

theorem addColumn (h : Alike database table left right) (column : NewColumn) :
    Matching (Alike database table) (left.addColumn database table column)
      (right.addColumn database table column) := by
  unfold Catalog.addColumn
  simp only [h.refused, h.report]
  split
  · exact ⟨rfl, h.countAddition⟩
  · split
    · exact ⟨rfl, h.countAddition⟩
    · split
      · exact ⟨rfl, h.countAddition⟩
      · exact ⟨rfl, h.afterAddition _ column⟩

end Alike

end Catalog

/-! ## Connections -/

namespace Connection

/-- The catalogs behind two connections are alike, and neither connection is to meet an outage. -/
structure Alike (database table : String) (left right : Connection) : Prop where
  catalog : left.catalog.Alike database table right.catalog
  quiet : left.Quiet
  quiet' : right.Quiet

namespace Alike

variable {left right : Connection}

theorem asked {left' right' : Connection} (h : Alike database table left right)
    (hleft : left.Asked left') (hright : right.Asked right') :
    Alike database table left' right' where
  catalog := (hleft.agrees.alike.trans h.catalog).trans hright.agrees.alike.symm
  quiet := hleft.quiet h.quiet
  quiet' := hright.quiet h.quiet'

theorem tableExists (h : Alike database table left right) :
    Matching (Alike database table) (left.tableExists database table)
      (right.tableExists database table) := by
  rw [tableExists_of_quiet h.quiet, tableExists_of_quiet h.quiet', h.catalog.report]
  exact ⟨rfl, h.asked left.afterLookup_asked right.afterLookup_asked⟩

theorem loadTable (h : Alike database table left right) :
    Matching (Alike database table) (left.loadTable database table)
      (right.loadTable database table) := by
  rw [loadTable_reaches_of_quiet h.quiet, loadTable_reaches_of_quiet h.quiet', h.catalog.report]
  exact ⟨rfl, h.asked left.afterLoad_asked right.afterLoad_asked⟩

theorem addColumn (h : Alike database table left right) (column : NewColumn) :
    Matching (Alike database table) (left.addColumn database table column)
      (right.addColumn database table column) := by
  have hquiet := (Step.addition left database table column).quiet h.quiet
  have hquiet' := (Step.addition right database table column).quiet h.quiet'
  have hcatalog := h.catalog.addColumn column
  rw [addColumn_reaches_of_quiet h.quiet] at hquiet ⊢
  rw [addColumn_reaches_of_quiet h.quiet'] at hquiet' ⊢
  exact ⟨hcatalog.1, hcatalog.2, hquiet, hquiet'⟩

end Alike

/-- Changes to another table do not show in a table. -/
theorem Confined.alike {other : String} {c c' : Connection}
    (h : c.Confined database other c') (hne : table ≠ other) :
    c.catalog.Alike database table c'.catalog := by
  obtain ⟨columns, hstatements⟩ := h.statements
  have hothers : (database, table) ≠ (database, other) := by simpa using hne
  refine ⟨(h.others database table hothers).symm, ?_, h.refused.symm⟩
  -- The statements since then name the other table.
  have hnone : (columns.map (Statement.addColumn database other)).filter
      (fun statement => Statement.target? statement = some (database, table)) = [] := by
    rw [List.filter_eq_nil_iff]
    intro statement hstatement
    obtain ⟨column, -, rfl⟩ := List.mem_map.1 hstatement
    simpa using hne.symm
  rw [Catalog.statementsFor, Catalog.statementsFor, hstatements, List.filter_append, hnone,
    List.append_nil]

end Connection

/-! ## Destinations -/

namespace Destination

/-- Two destinations know the same of a table, and have the same of it. -/
structure Alike (database table : String) (left right : Destination) : Prop where
  slot : left.cache.slot? table = right.cache.slot? table
  connection : left.connection.Alike database table right.connection

namespace Alike

variable {left right : Destination} {evolution : Evolution}

theorem withConnection (h : Alike database table left right) {c c' : Connection}
    (hc : c.Alike database table c') :
    Alike database table { left with connection := c } { right with connection := c' } :=
  ⟨h.slot, hc⟩

theorem learn (cache cache' : TableCache) (cached : CachedTable) {c c' : Connection}
    (hc : c.Alike database table c') :
    Alike database table ⟨c, cache.set table cached⟩ ⟨c', cache'.set table cached⟩ := by
  refine ⟨?_, hc⟩
  rw [TableCache.slot?_set, TableCache.slot?_set, if_pos rfl, if_pos rfl]

theorem confirm (h : Alike database table left right) :
    Matching (Alike database table) (left.confirm database table)
      (right.confirm database table) := by
  obtain ⟨answer, c, c', hleft, hright, hc⟩ := h.connection.tableExists.exists
  simp only [Destination.confirm, TableCache.isKnown, h.slot, hleft, hright]
  split
  · exact ⟨rfl, h⟩
  · rcases answer with error | _ | _
    · exact ⟨rfl, h.withConnection hc⟩
    · exact ⟨rfl, h.withConnection hc⟩
    · exact ⟨rfl, learn _ _ _ hc⟩

theorem load (h : Alike database table left right) :
    Matching (Alike database table) (left.load database table) (right.load database table) := by
  obtain ⟨answer, c, c', hleft, hright, hc⟩ := h.connection.loadTable.exists
  simp only [Destination.load, hleft, hright]
  cases answer with
  | error error => exact ⟨rfl, h.withConnection hc⟩
  | ok report => exact ⟨rfl, learn _ _ _ hc⟩

theorem current (h : Alike database table left right) :
    Matching (Alike database table) (left.current database table)
      (right.current database table) := by
  simp only [Destination.current, TableCache.snapshot?, h.slot]
  split
  · exact ⟨rfl, h⟩
  · exact h.load

theorem addColumns {c c' : Connection} (h : c.Alike database table c')
    (columns : List NewColumn) :
    Matching (Connection.Alike database table) (addColumns database table columns c)
      (addColumns database table columns c') := by
  induction columns generalizing c c' with
  | nil => exact ⟨rfl, h⟩
  | cons column rest ih =>
    obtain ⟨answer, next, next', hleft, hright, hnext⟩ := (h.addColumn column).exists
    simp only [Destination.addColumns, hleft, hright]
    cases answer with
    | error cause => exact ⟨rfl, hnext⟩
    | ok _ => exact ih hnext

theorem evolve (h : Alike database table left right) (fields : List EventField) :
    Matching (Alike database table) (left.evolve database evolution table fields)
      (right.evolve database evolution table fields) := by
  cases evolution with
  | disabled => exact ⟨rfl, h⟩
  | basic =>
    obtain ⟨answer, c, c', hleft, hright, hc⟩ :=
      (addColumns h.connection (fields.map EventField.column)).exists
    simp only [Destination.evolve, hleft, hright]
    cases answer with
    | error error => exact ⟨rfl, h.withConnection hc⟩
    | ok _ => exact (h.withConnection hc).load

/-- Ensuring columns of the table has the same answer in both. -/
theorem ensureColumns (h : Alike database table left right) (event : Event) :
    Matching (Alike database table) (left.ensureColumns database evolution table event)
      (right.ensureColumns database evolution table event) := by
  obtain ⟨confirmed, d, d', hleft, hright, hd⟩ := h.confirm.exists
  simp only [Destination.ensureColumns, hleft, hright]
  cases confirmed with
  | error error => exact ⟨rfl, hd⟩
  | ok _ =>
    obtain ⟨loaded, e, e', hleft, hright, he⟩ := hd.current.exists
    simp only [hleft, hright]
    cases loaded with
    | error error => exact ⟨rfl, he⟩
    | ok snapshot =>
      dsimp only
      split
      · exact ⟨rfl, he⟩
      · exact he.evolve _

end Alike

/-! ## Other tables -/

/-- Ensuring columns of another table in one of two destinations keeps them alike. -/
theorem Alike.apart {left right : Destination} {evolution : Evolution} {other : String}
    (h : Alike database table left right) (hne : table ≠ other) (event : Event) :
    Alike database table (left.ensureColumns database evolution other event).2 right := by
  have hconfined := (ensureColumns_outcome database evolution other event left).confined
  have hlater := ensureColumns_later database evolution other event left
  refine ⟨(hconfined.slots table hne).trans h.slot, ?_, hlater.quiet h.connection.quiet,
    h.connection.quiet'⟩
  exact (hconfined.connection.alike hne).symm.trans h.connection.catalog

end Destination

end TableFeed
