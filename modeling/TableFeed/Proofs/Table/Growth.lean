import Mathlib.Logic.Relation
import TableFeed.Proofs.Table.Calls

/-!
# Tables only grow

No call takes a table or a column away: `Catalog.Grows` says that every table of one
catalog is in another, with its columns first and in the same order.  A single call makes
a catalog grow (`Connection.Step.grows`), so any number of calls does
(`Connection.Later.grows`), whatever they ask for and whichever of them fail.
-/

namespace TableFeed

/-! ## Growth of a catalog -/

namespace Catalog

/-- A table of a catalog has a column with a name. -/
def HasColumn (catalog : Catalog) (database table name : String) : Prop :=
  ∃ report, catalog.table? database table = some report ∧ name ∈ report.columnNames

theorem hasColumn_iff {catalog : Catalog} {database table name : String} {report : TableReport}
    (htable : catalog.table? database table = some report) :
    catalog.HasColumn database table name ↔ name ∈ report.columnNames := by
  simp [HasColumn, htable]

theorem Agrees.hasColumn_iff {left right : Catalog} (h : left.Agrees right)
    {database table name : String} :
    left.HasColumn database table name ↔ right.HasColumn database table name := by
  simp only [HasColumn, h.table?]

/-- Every table of one catalog is in another, with columns added at its end. -/
def Grows (before after : Catalog) : Prop :=
  ∀ database table report, before.table? database table = some report →
    ∃ columns, after.table? database table = some (report.extend columns)

namespace Grows

theorem refl (catalog : Catalog) : catalog.Grows catalog := by
  intro database table report h
  exact ⟨[], by simpa using h⟩

theorem trans {first second third : Catalog} (h : first.Grows second) (h' : second.Grows third) :
    first.Grows third := by
  intro database table report htable
  obtain ⟨columns, hsecond⟩ := h database table report htable
  obtain ⟨more, hthird⟩ := h' database table _ hsecond
  exact ⟨columns ++ more, by rw [hthird, TableReport.extend_append]⟩

theorem hasColumn {before after : Catalog} (h : before.Grows after) {database table name : String}
    (hc : before.HasColumn database table name) : after.HasColumn database table name := by
  obtain ⟨report, htable, hname⟩ := hc
  obtain ⟨columns, hafter⟩ := h database table report htable
  refine ⟨_, hafter, ?_⟩
  rw [TableReport.columnNames_extend]
  exact List.mem_append_left _ hname

end Grows

theorem Agrees.grows {before after : Catalog} (h : after.Agrees before) : before.Grows after := by
  intro database table report htable
  exact ⟨[], by rw [h.table?, htable, TableReport.extend_nil]⟩

theorem afterAddition_grows {catalog : Catalog} {database table : String} {report : TableReport}
    (htable : catalog.table? database table = some report) (column : NewColumn) :
    catalog.Grows (catalog.afterAddition database table report column) := by
  intro database' table' report' htable'
  rw [table?_afterAddition]
  split
  · next h =>
    obtain ⟨rfl, rfl⟩ := Prod.mk.inj h
    rw [htable] at htable'
    exact ⟨[column.toColumn], by rw [Option.some.inj htable']⟩
  · exact ⟨[], by rw [htable', TableReport.extend_nil]⟩

theorem AdditionOutcome.grows {catalog catalog' : Catalog} {database table : String}
    {column : NewColumn} {answer : Except CatalogError Unit}
    (h : catalog.AdditionOutcome database table column answer catalog') :
    catalog.Grows catalog' := by
  cases h with
  | refused => exact catalog.countAddition_agrees.grows
  | notFound => exact catalog.countAddition_agrees.grows
  | duplicate => exact catalog.countAddition_agrees.grows
  | added _ htable _ => exact afterAddition_grows htable column

end Catalog

/-! ## Growth over a connection -/

namespace Connection

theorem AdditionOutcome.grows {c c' : Connection} {database table : String} {column : NewColumn}
    {answer : Except CatalogError Unit} (h : c.AdditionOutcome database table column answer c') :
    c.catalog.Grows c'.catalog := by
  cases h with
  | out => exact .refl _
  | reached _ h => exact h.grows

/-- One call over a connection. -/
inductive Step : Connection → Connection → Prop where
  | lookup (c : Connection) (database table : String) : Step c (c.tableExists database table).2
  | load (c : Connection) (database table : String) : Step c (c.loadTable database table).2
  | addition (c : Connection) (database table : String) (column : NewColumn) :
      Step c (c.addColumn database table column).2

/-- Any number of calls over a connection. -/
def Later : Connection → Connection → Prop :=
  Relation.ReflTransGen Step

theorem Step.grows {c c' : Connection} (h : Step c c') : c.catalog.Grows c'.catalog := by
  cases h with
  | lookup database table => exact (c.tableExists_outcome database table).asked.agrees.grows
  | load database table => exact (c.loadTable_outcome database table).asked.agrees.grows
  | addition database table column => exact (c.addColumn_outcome database table column).grows

theorem AdditionOutcome.quiet {c c' : Connection} {database table : String} {column : NewColumn}
    {answer : Except CatalogError Unit} (h : c.AdditionOutcome database table column answer c')
    (hquiet : c.Quiet) : c'.Quiet := by
  cases h with
  | out => exact hquiet.after rfl (Nat.le_refl _) (Nat.le_refl _) (Nat.le_succ _)
  | reached => exact hquiet.after rfl (Nat.le_refl _) (Nat.le_refl _) (Nat.le_succ _)

theorem Step.quiet {c c' : Connection} (h : Step c c') (hquiet : c.Quiet) : c'.Quiet := by
  cases h with
  | lookup database table => exact (c.tableExists_outcome database table).asked.quiet hquiet
  | load database table => exact (c.loadTable_outcome database table).asked.quiet hquiet
  | addition database table column =>
    exact (c.addColumn_outcome database table column).quiet hquiet

namespace Later

theorem refl (c : Connection) : c.Later c :=
  Relation.ReflTransGen.refl

theorem trans {first second third : Connection} (h : first.Later second) (h' : second.Later third) :
    first.Later third :=
  Relation.ReflTransGen.trans h h'

theorem step {c c' : Connection} (h : Step c c') : c.Later c' :=
  Relation.ReflTransGen.single h

theorem grows {c c' : Connection} (h : c.Later c') : c.catalog.Grows c'.catalog := by
  induction h with
  | refl => exact .refl _
  | tail _ hstep ih => exact ih.trans hstep.grows

theorem quiet {c c' : Connection} (h : c.Later c') (hquiet : c.Quiet) : c'.Quiet := by
  induction h with
  | refl => exact hquiet
  | tail _ hstep ih => exact hstep.quiet ih

end Later

end Connection

end TableFeed
