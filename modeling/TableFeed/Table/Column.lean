import TableFeed.Json.Document
import TableFeed.SortedMap

/-!
# Columns and tables

A destination table as its catalog reports it, the snapshot of it that is kept for
look-ups, and a column that is to be added.

A report may name a column twice; the snapshot then keeps the last one.
-/

namespace TableFeed

/-- A column as the catalog reports it. -/
structure Column where
  /-- The name. -/
  name : String
  /-- The type. -/
  typeName : String
  /-- The comment, empty when there is none. -/
  comment : String
deriving DecidableEq, Repr

/-- A column to be added to a table. -/
structure NewColumn where
  /-- The name. -/
  name : String
  /-- The type. -/
  typeName : String
  /-- The comment, if there is one. -/
  comment : Option String
deriving DecidableEq, Repr

/-- The column as the catalog reports it once it is added. -/
def NewColumn.toColumn (column : NewColumn) : Column :=
  ⟨column.name, column.typeName, column.comment.getD ""⟩

/-! ## Reports -/

/-- A table as the catalog reports it. -/
structure TableReport where
  /-- The kind of the table's keys. -/
  keysType : String
  /-- The columns in order. -/
  columns : List Column
deriving DecidableEq, Repr

namespace TableReport

/-- The names of the columns in order. -/
def columnNames (report : TableReport) : List String :=
  report.columns.map Column.name

/-- Whether there is a column with a name. -/
def hasColumn (report : TableReport) (name : String) : Bool :=
  report.columns.any fun column => column.name == name

/-- The report with a column at the end. -/
def push (report : TableReport) (column : Column) : TableReport :=
  { report with columns := report.columns ++ [column] }

end TableReport

/-- A column as a document. -/
def Column.toDocument (column : Column) : Document :=
  .record [("name", .string column.name), ("type", .string column.typeName),
    ("comment", .string column.comment)]

/-- A report as a document. -/
def TableReport.toDocument (report : TableReport) : Document :=
  .record [("keysType", .string report.keysType),
    ("properties", .list (report.columns.map Column.toDocument))]

/-! ## Snapshots -/

/-- What is known of a table from its last report. -/
structure TableSnapshot where
  /-- The name of the table. -/
  table : String
  /-- The kind of the table's keys. -/
  keysType : String
  /-- The columns by name. -/
  columns : SortedMap Column
deriving DecidableEq

namespace TableSnapshot

/-- The snapshot of a report. -/
def ofReport (table : String) (report : TableReport) : TableSnapshot where
  table := table
  keysType := report.keysType
  columns := .ofList (report.columns.map fun column => (column.name, column))

/-- Whether there is a column with a name. -/
def hasColumn (snapshot : TableSnapshot) (name : String) : Bool :=
  (snapshot.columns.get? name).isSome

/-- The names of the columns in increasing order. -/
def columnNames (snapshot : TableSnapshot) : List String :=
  snapshot.columns.keys

end TableSnapshot

end TableFeed
