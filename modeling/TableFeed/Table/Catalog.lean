import TableFeed.Entries
import TableFeed.Table.Statement

/-!
# The catalog

The tables of the destination, held in memory, with a log of the statements that
changed them and counts of the calls made.  Three calls are answered: whether a
table exists, what its columns are, and the addition of a column.  Every call
answers a result and the catalog after it; a call that fails changes the counts and
nothing else.

Additions of some columns may be refused, whatever the table.
-/

namespace TableFeed

/-- Why the catalog did not do what was asked. -/
inductive CatalogError where
  /-- The catalog could not be reached. -/
  | connection (details : String)
  /-- There is no such table. -/
  | notFound (database table : String)
  /-- The column is one that is refused. -/
  | refused (column : String)
  /-- The table has a column with that name. -/
  | duplicate (column : String)
deriving DecidableEq, Repr

/-- The wording of a catalog error. -/
def CatalogError.message : CatalogError → String
  | .connection details => "connection error: " ++ details
  | .notFound database table => "table not found: " ++ database ++ "." ++ table
  | .refused column => "statement rejected: column " ++ column ++ " refused"
  | .duplicate column => "statement rejected: duplicate column name '" ++ column ++ "'"

/-- How often each call was made. -/
structure CallCounts where
  /-- Calls that ask whether a table exists. -/
  lookups : Nat
  /-- Calls that ask for the columns of a table. -/
  loads : Nat
  /-- Calls that add a column. -/
  additions : Nat
deriving DecidableEq, Repr

/-- No calls. -/
def CallCounts.zero : CallCounts := ⟨0, 0, 0⟩

/-- The calls of all kinds together. -/
def CallCounts.total (counts : CallCounts) : Nat :=
  counts.lookups + counts.loads + counts.additions

/-- The catalog of the destination. -/
structure Catalog where
  /-- The tables by database and name. -/
  tables : List ((String × String) × TableReport)
  /-- The statements carried out, oldest first. -/
  statements : List String
  /-- The names of columns whose addition is refused. -/
  refused : List String
  /-- The calls made so far. -/
  calls : CallCounts
deriving DecidableEq, Repr

namespace Catalog

/-- The catalog without tables. -/
def empty : Catalog :=
  ⟨[], [], [], .zero⟩

/-- The catalog with a table, in the place of one with the same name. -/
def withTable (catalog : Catalog) (database table : String) (report : TableReport) : Catalog :=
  { catalog with tables := Entries.put (database, table) report catalog.tables }

/-- The catalog with additions of a column refused. -/
def refusing (catalog : Catalog) (column : String) : Catalog :=
  { catalog with refused := column :: catalog.refused }

/-- A table. -/
def table? (catalog : Catalog) (database table : String) : Option TableReport :=
  catalog.tables.lookup (database, table)

/-- The names of a table's columns in order. -/
def columnNames? (catalog : Catalog) (database table : String) : Option (List String) :=
  (catalog.table? database table).map TableReport.columnNames

/-! ## Calls -/

/-- Whether a table exists. -/
def tableExists (catalog : Catalog) (database table : String) :
    Except CatalogError Bool × Catalog :=
  (.ok (catalog.table? database table).isSome,
    { catalog with calls.lookups := catalog.calls.lookups + 1 })

/-- The report of a table. -/
def loadTable (catalog : Catalog) (database table : String) :
    Except CatalogError TableReport × Catalog :=
  ((catalog.table? database table).elim (.error (.notFound database table)) .ok,
    { catalog with calls.loads := catalog.calls.loads + 1 })

/-- The catalog after one more call that adds a column. -/
def countAddition (catalog : Catalog) : Catalog :=
  { catalog with calls.additions := catalog.calls.additions + 1 }

/-- Adds a column at the end of a table. -/
def addColumn (catalog : Catalog) (database table : String) (column : NewColumn) :
    Except CatalogError Unit × Catalog :=
  let counted := catalog.countAddition
  if column.name ∈ catalog.refused then (.error (.refused column.name), counted)
  else
    match catalog.table? database table with
    | none => (.error (.notFound database table), counted)
    | some report =>
      if report.hasColumn column.name then (.error (.duplicate column.name), counted)
      else
        (.ok (),
          { counted.withTable database table (report.push column.toColumn) with
            statements := catalog.statements ++ [Statement.addColumn database table column] })

end Catalog

end TableFeed
