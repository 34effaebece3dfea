import TableFeed.Proofs.Table.Columns
import TableFeed.Table.Connection

/-!
# The outcomes of a call

Each call over a connection ends in one of a few ways.  `Connection.LookupOutcome`,
`Connection.LoadOutcome` and `Connection.AdditionOutcome` list them, each with its
condition, its answer and the connection after it, and one lemma for each call says that
the list is complete.  What a call can do is read off these lists from here on, and no
later proof opens a call again.

An outage ends a call before it reaches the catalog.  A connection is *quiet* when no
call that is still to come meets an outage, and *unbroken* up to a later state when none of
the calls in between did.  Questions leave the tables as they are (`Connection.Asked`).
-/

namespace TableFeed

/-! ## Tables of a catalog -/

namespace Catalog

theorem table?_withTable (catalog : Catalog) (database table database' table' : String)
    (report : TableReport) :
    (catalog.withTable database table report).table? database' table' =
      if (database', table') = (database, table) then some report
      else catalog.table? database' table' :=
  Entries.lookup_put (database, table) (database', table') report catalog.tables

/-- Two catalogs with the same tables, statements and refusals; the calls made may differ. -/
structure Agrees (left right : Catalog) : Prop where
  /-- The tables are the same. -/
  tables : left.tables = right.tables
  /-- The statements are the same. -/
  statements : left.statements = right.statements
  /-- The refused columns are the same. -/
  refused : left.refused = right.refused

namespace Agrees

theorem refl (catalog : Catalog) : catalog.Agrees catalog :=
  ⟨rfl, rfl, rfl⟩

theorem trans {first second third : Catalog} (h : first.Agrees second) (h' : second.Agrees third) :
    first.Agrees third :=
  ⟨h.tables.trans h'.tables, h.statements.trans h'.statements, h.refused.trans h'.refused⟩

theorem table? {left right : Catalog} (h : left.Agrees right) (database table : String) :
    left.table? database table = right.table? database table := by
  rw [Catalog.table?, Catalog.table?, h.tables]

end Agrees

/-- The catalog after a column was added to a table that had the columns of a report. -/
def afterAddition (catalog : Catalog) (database table : String) (report : TableReport)
    (column : NewColumn) : Catalog :=
  { catalog.countAddition.withTable database table (report.push column.toColumn) with
    statements := catalog.statements ++ [Statement.addColumn database table column] }

/-- How an addition that reaches the catalog ends. -/
inductive AdditionOutcome (catalog : Catalog) (database table : String) (column : NewColumn) :
    Except CatalogError Unit → Catalog → Prop where
  | refused : column.name ∈ catalog.refused →
      AdditionOutcome catalog database table column (.error (.refused column.name))
        catalog.countAddition
  | notFound : column.name ∉ catalog.refused → catalog.table? database table = none →
      AdditionOutcome catalog database table column (.error (.notFound database table))
        catalog.countAddition
  | duplicate {report : TableReport} : column.name ∉ catalog.refused →
      catalog.table? database table = some report → report.hasColumn column.name = true →
      AdditionOutcome catalog database table column (.error (.duplicate column.name))
        catalog.countAddition
  | added {report : TableReport} : column.name ∉ catalog.refused →
      catalog.table? database table = some report → report.hasColumn column.name = false →
      AdditionOutcome catalog database table column (.ok ())
        (catalog.afterAddition database table report column)

theorem addColumn_outcome (catalog : Catalog) (database table : String) (column : NewColumn) :
    catalog.AdditionOutcome database table column (catalog.addColumn database table column).1
      (catalog.addColumn database table column).2 := by
  unfold addColumn
  by_cases hrefused : column.name ∈ catalog.refused
  · simpa [hrefused] using AdditionOutcome.refused hrefused
  · cases htable : catalog.table? database table with
    | none => simpa [hrefused] using AdditionOutcome.notFound hrefused htable
    | some report =>
      by_cases hcolumn : report.hasColumn column.name = true
      · simpa [hrefused, hcolumn] using AdditionOutcome.duplicate hrefused htable hcolumn
      · have habsent : report.hasColumn column.name = false := by simpa using hcolumn
        simp only [hrefused, habsent, ↓reduceIte, Bool.false_eq_true]
        exact .added hrefused htable habsent

theorem countAddition_agrees (catalog : Catalog) : catalog.countAddition.Agrees catalog :=
  ⟨rfl, rfl, rfl⟩

theorem table?_afterAddition (catalog : Catalog) (database table database' table' : String)
    (report : TableReport) (column : NewColumn) :
    (catalog.afterAddition database table report column).table? database' table' =
      if (database', table') = (database, table) then some (report.extend [column.toColumn])
      else catalog.table? database' table' :=
  table?_withTable catalog.countAddition database table database' table' _

end Catalog

/-! ## Calls over a connection -/

namespace Connection

/-- The connection with one more look-up tried. -/
def tryLookup (c : Connection) : Connection :=
  { c with tried.lookups := c.tried.lookups + 1 }

/-- The connection with one more load tried. -/
def tryLoad (c : Connection) : Connection :=
  { c with tried.loads := c.tried.loads + 1 }

/-- The connection after a look-up that reached the catalog. -/
def afterLookup (c : Connection) : Connection :=
  { c.tryLookup with catalog.calls.lookups := c.catalog.calls.lookups + 1 }

/-- The connection after a load that reached the catalog. -/
def afterLoad (c : Connection) : Connection :=
  { c.tryLoad with catalog.calls.loads := c.catalog.calls.loads + 1 }

/-- The connection with one more addition tried. -/
def tryAddition (c : Connection) : Connection :=
  { c with tried.additions := c.tried.additions + 1 }

/-- How the question whether a table exists ends. -/
inductive LookupOutcome (c : Connection) (database table : String) :
    Except CatalogError Bool → Connection → Prop where
  | out : c.outages.lookup (c.tried.lookups + 1) = true →
      LookupOutcome c database table (.error c.outError) c.tryLookup
  | answered : c.outages.lookup (c.tried.lookups + 1) = false →
      LookupOutcome c database table (.ok (c.catalog.table? database table).isSome) c.afterLookup

/-- How the question for a table's columns ends. -/
inductive LoadOutcome (c : Connection) (database table : String) :
    Except CatalogError TableReport → Connection → Prop where
  | out : c.outages.load (c.tried.loads + 1) = true →
      LoadOutcome c database table (.error c.outError) c.tryLoad
  | notFound : c.outages.load (c.tried.loads + 1) = false →
      c.catalog.table? database table = none →
      LoadOutcome c database table (.error (.notFound database table)) c.afterLoad
  | answered {report : TableReport} : c.outages.load (c.tried.loads + 1) = false →
      c.catalog.table? database table = some report →
      LoadOutcome c database table (.ok report) c.afterLoad

/-- How the addition of a column ends. -/
inductive AdditionOutcome (c : Connection) (database table : String) (column : NewColumn) :
    Except CatalogError Unit → Connection → Prop where
  | out : c.outages.addition (c.tried.additions + 1) = true →
      AdditionOutcome c database table column (.error c.outError) c.tryAddition
  | reached {answer : Except CatalogError Unit} {catalog : Catalog} :
      c.outages.addition (c.tried.additions + 1) = false →
      c.catalog.AdditionOutcome database table column answer catalog →
      AdditionOutcome c database table column answer { c.tryAddition with catalog := catalog }

theorem tableExists_outcome (c : Connection) (database table : String) :
    c.LookupOutcome database table (c.tableExists database table).1
      (c.tableExists database table).2 := by
  cases hout : c.outages.lookup (c.tried.lookups + 1) with
  | true =>
    simp only [tableExists, hout, ↓reduceIte]
    exact .out hout
  | false =>
    simp only [tableExists, hout, Bool.false_eq_true, ↓reduceIte]
    exact .answered hout

theorem loadTable_outcome (c : Connection) (database table : String) :
    c.LoadOutcome database table (c.loadTable database table).1
      (c.loadTable database table).2 := by
  cases hout : c.outages.load (c.tried.loads + 1) with
  | true =>
    simp only [loadTable, hout, ↓reduceIte]
    exact .out hout
  | false =>
    simp only [loadTable, hout, Bool.false_eq_true, ↓reduceIte, Catalog.loadTable]
    cases htable : c.catalog.table? database table with
    | none => exact .notFound hout htable
    | some report => exact .answered hout htable

theorem addColumn_outcome (c : Connection) (database table : String) (column : NewColumn) :
    c.AdditionOutcome database table column (c.addColumn database table column).1
      (c.addColumn database table column).2 := by
  cases hout : c.outages.addition (c.tried.additions + 1) with
  | true =>
    simp only [addColumn, hout, ↓reduceIte]
    exact .out hout
  | false =>
    simp only [addColumn, hout, Bool.false_eq_true, ↓reduceIte]
    exact .reached hout (c.catalog.addColumn_outcome database table column)

/-! ## Quiet connections -/

/-- No call that is still to come meets an outage. -/
structure Quiet (c : Connection) : Prop where
  /-- No look-up does. -/
  lookup : ∀ number, c.tried.lookups < number → c.outages.lookup number = false
  /-- No load does. -/
  load : ∀ number, c.tried.loads < number → c.outages.load number = false
  /-- No addition does. -/
  addition : ∀ number, c.tried.additions < number → c.outages.addition number = false

/-- A look-up that meets no outage is answered. -/
theorem tableExists_of_quiet {c : Connection} (hquiet : c.Quiet) (database table : String) :
    c.tableExists database table =
      (.ok (c.catalog.table? database table).isSome, c.afterLookup) := by
  have hout := hquiet.lookup (c.tried.lookups + 1) (Nat.lt_succ_self _)
  simp only [tableExists, hout, Bool.false_eq_true, ↓reduceIte]
  rfl

/-- A load that meets no outage reaches the catalog. -/
theorem loadTable_reaches_of_quiet {c : Connection} (hquiet : c.Quiet) (database table : String) :
    c.loadTable database table =
      ((c.catalog.table? database table).elim (.error (.notFound database table)) .ok,
        c.afterLoad) := by
  have hout := hquiet.load (c.tried.loads + 1) (Nat.lt_succ_self _)
  simp only [loadTable, hout, Bool.false_eq_true, ↓reduceIte, Catalog.loadTable]
  rfl

/-- A load that meets no outage tells the columns of a table that is there. -/
theorem loadTable_of_quiet {c : Connection} (hquiet : c.Quiet) {database table : String}
    {report : TableReport} (htable : c.catalog.table? database table = some report) :
    c.loadTable database table = (.ok report, c.afterLoad) := by
  rw [loadTable_reaches_of_quiet hquiet, htable]
  rfl

/-- An addition that meets no outage reaches the catalog. -/
theorem addColumn_reaches_of_quiet {c : Connection} (hquiet : c.Quiet) (database table : String)
    (column : NewColumn) :
    c.addColumn database table column = ((c.catalog.addColumn database table column).1,
      { c.tryAddition with catalog := (c.catalog.addColumn database table column).2 }) := by
  have hout := hquiet.addition (c.tried.additions + 1) (Nat.lt_succ_self _)
  simp only [addColumn, hout, Bool.false_eq_true, ↓reduceIte]
  rfl

/-- None of the calls from one state of a connection to another met an outage. -/
structure Unbroken (c c' : Connection) : Prop where
  /-- No look-up did. -/
  lookup : ∀ number, c.tried.lookups < number → number ≤ c'.tried.lookups →
    c.outages.lookup number = false
  /-- No load did. -/
  load : ∀ number, c.tried.loads < number → number ≤ c'.tried.loads →
    c.outages.load number = false
  /-- No addition did. -/
  addition : ∀ number, c.tried.additions < number → number ≤ c'.tried.additions →
    c.outages.addition number = false

namespace Quiet

theorem never (catalog : Catalog) : (Connection.ofCatalog catalog .never).Quiet :=
  ⟨fun _ _ => rfl, fun _ _ => rfl, fun _ _ => rfl⟩

/-- A quiet connection stays quiet. -/
theorem after {c c' : Connection} (h : c.Quiet) (houtages : c'.outages = c.outages)
    (hlookups : c.tried.lookups ≤ c'.tried.lookups) (hloads : c.tried.loads ≤ c'.tried.loads)
    (hadditions : c.tried.additions ≤ c'.tried.additions) : c'.Quiet where
  lookup := fun number hlt => by
    rw [houtages]
    exact h.lookup number (Nat.lt_of_le_of_lt hlookups hlt)
  load := fun number hlt => by
    rw [houtages]
    exact h.load number (Nat.lt_of_le_of_lt hloads hlt)
  addition := fun number hlt => by
    rw [houtages]
    exact h.addition number (Nat.lt_of_le_of_lt hadditions hlt)

theorem unbroken {c : Connection} (h : c.Quiet) (c' : Connection) : c.Unbroken c' where
  lookup := fun number hlt _ => h.lookup number hlt
  load := fun number hlt _ => h.load number hlt
  addition := fun number hlt _ => h.addition number hlt

end Quiet

/-- What is unbroken from a state is so from any state after it. -/
theorem Unbroken.after {first second third : Connection} (h : first.Unbroken third)
    (houtages : second.outages = first.outages)
    (hlookups : first.tried.lookups ≤ second.tried.lookups)
    (hloads : first.tried.loads ≤ second.tried.loads)
    (hadditions : first.tried.additions ≤ second.tried.additions) : second.Unbroken third where
  lookup := fun number hlt hle => by
    rw [houtages]
    exact h.lookup number (Nat.lt_of_le_of_lt hlookups hlt) hle
  load := fun number hlt hle => by
    rw [houtages]
    exact h.load number (Nat.lt_of_le_of_lt hloads hlt) hle
  addition := fun number hlt hle => by
    rw [houtages]
    exact h.addition number (Nat.lt_of_le_of_lt hadditions hlt) hle

/-! ## Questions -/

/-- Nothing but questions were asked between two states of a connection. -/
structure Asked (c c' : Connection) : Prop where
  /-- The catalog has the same tables. -/
  agrees : c'.catalog.Agrees c.catalog
  /-- The outages are the same. -/
  outages : c'.outages = c.outages
  /-- Look-ups may have been tried. -/
  lookups : c.tried.lookups ≤ c'.tried.lookups
  /-- Loads may have been tried. -/
  loads : c.tried.loads ≤ c'.tried.loads
  /-- No addition was tried. -/
  additions : c'.tried.additions = c.tried.additions

namespace Asked

theorem refl (c : Connection) : c.Asked c :=
  ⟨.refl _, rfl, Nat.le_refl _, Nat.le_refl _, rfl⟩

theorem trans {first second third : Connection} (h : first.Asked second)
    (h' : second.Asked third) : first.Asked third where
  agrees := h'.agrees.trans h.agrees
  outages := h'.outages.trans h.outages
  lookups := Nat.le_trans h.lookups h'.lookups
  loads := Nat.le_trans h.loads h'.loads
  additions := h'.additions.trans h.additions

theorem quiet {c c' : Connection} (h : c.Asked c') (hquiet : c.Quiet) : c'.Quiet :=
  hquiet.after h.outages h.lookups h.loads (Nat.le_of_eq h.additions.symm)

theorem unbroken {first second third : Connection} (h : first.Asked second)
    (hunbroken : first.Unbroken third) : second.Unbroken third :=
  hunbroken.after h.outages h.lookups h.loads (Nat.le_of_eq h.additions.symm)

theorem held {c c' : Connection} (h : c.Asked c') {database table : String}
    {report : TableReport} (htable : c.catalog.table? database table = some report) :
    c'.catalog.table? database table = some report :=
  (h.agrees.table? database table).trans htable

end Asked

theorem afterLookup_asked (c : Connection) : c.Asked c.afterLookup :=
  ⟨⟨rfl, rfl, rfl⟩, rfl, Nat.le_succ _, Nat.le_refl _, rfl⟩

theorem afterLoad_asked (c : Connection) : c.Asked c.afterLoad :=
  ⟨⟨rfl, rfl, rfl⟩, rfl, Nat.le_refl _, Nat.le_succ _, rfl⟩

theorem LookupOutcome.answer_eq {c c' : Connection} {database table : String} {found : Bool}
    (h : c.LookupOutcome database table (.ok found) c') :
    found = (c.catalog.table? database table).isSome := by
  cases h with
  | answered => rfl

theorem LookupOutcome.loads {c c' : Connection} {database table : String}
    {answer : Except CatalogError Bool} (h : c.LookupOutcome database table answer c') :
    c'.tried.loads = c.tried.loads := by
  cases h with
  | out => rfl
  | answered => rfl

theorem LookupOutcome.asked {c c' : Connection} {database table : String}
    {answer : Except CatalogError Bool} (h : c.LookupOutcome database table answer c') :
    c.Asked c' := by
  cases h with
  | out => exact ⟨⟨rfl, rfl, rfl⟩, rfl, Nat.le_succ _, Nat.le_refl _, rfl⟩
  | answered => exact c.afterLookup_asked

theorem LoadOutcome.asked {c c' : Connection} {database table : String}
    {answer : Except CatalogError TableReport} (h : c.LoadOutcome database table answer c') :
    c.Asked c' := by
  cases h with
  | out => exact ⟨⟨rfl, rfl, rfl⟩, rfl, Nat.le_refl _, Nat.le_succ _, rfl⟩
  | notFound => exact c.afterLoad_asked
  | answered => exact c.afterLoad_asked

/-! ## Where nothing can go wrong -/

/-- A table is there, no call is to meet an outage, and no column is refused. -/
structure Ready (database table : String) (report : TableReport) (c : Connection) : Prop where
  /-- No call that is still to come meets an outage. -/
  quiet : c.Quiet
  /-- No column is refused. -/
  refused : c.catalog.refused = []
  /-- The table has these columns. -/
  held : c.catalog.table? database table = some report

theorem Ready.asked {database table : String} {report : TableReport} {c c' : Connection}
    (h : c.Ready database table report) (hasked : c.Asked c') : c'.Ready database table report :=
  ⟨hasked.quiet h.quiet, hasked.agrees.refused.trans h.refused, hasked.held h.held⟩

/-! ## Failed additions -/

/-- An addition that fails has taken a try and left the tables as they were. -/
theorem AdditionOutcome.failed {c c' : Connection} {database table : String} {column : NewColumn}
    {cause : CatalogError}
    (h : c.AdditionOutcome database table column (.error cause) c') :
    c'.catalog.Agrees c.catalog ∧ c'.outages = c.outages ∧
      c'.tried = { c.tried with additions := c.tried.additions + 1 } := by
  cases h with
  | out => exact ⟨.refl _, rfl, rfl⟩
  | reached _ h =>
    refine ⟨?_, rfl, rfl⟩
    cases h with
    | refused => exact c.catalog.countAddition_agrees
    | notFound => exact c.catalog.countAddition_agrees
    | duplicate => exact c.catalog.countAddition_agrees

end Connection

end TableFeed
