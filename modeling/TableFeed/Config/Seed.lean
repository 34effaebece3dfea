import TableFeed.Json.Document
import TableFeed.SortedMap
import TableFeed.Table.Catalog
import TableFeed.Table.Reader

/-!
# Seeds of a catalog

A seed lists the tables that exist in the destination before a run.  They lie in the
database that the seed names, or in the connector's database when it names none.
-/

namespace TableFeed

/-- The tables that exist before a run. -/
structure Seed where
  /-- The database of the tables, if it is not the connector's. -/
  database : Option String
  /-- The tables by name. -/
  tables : SortedMap TableReport
deriving DecidableEq

namespace Seed

/-- A seed without tables. -/
def empty : Seed :=
  ⟨none, .empty⟩

/-- The kind of keys of a table that does not say. -/
def defaultKeysType : String := "UNIQUE_KEYS"

/-- The catalog that holds the tables of a seed. -/
def catalog (seed : Seed) (defaultDatabase : String) : Catalog :=
  let database := seed.database.getD defaultDatabase
  seed.tables.entries.foldl (fun catalog entry =>
    catalog.withTable database entry.1 entry.2) .empty

/-! ## Reading -/

open Json

/-- The members of a table. -/
def tableShapes : List (String × Shape) :=
  [("keys_type", .text), ("columns", .list (.record Column.memberShapes))]

/-- The members of a seed. -/
def memberShapes : List (String × Shape) :=
  [("database", .optionalText), ("tables", .map (.record tableShapes))]

/-- A table. -/
def readTable? (value : Json) : Option TableReport := do
  let members ← record? (tableShapes.map Prod.fst) value
  let keysType ← memberOr? defaultKeysType asText? members "keys_type"
  let columns ← memberOr? [] (list? Column.read?) members "columns"
  return ⟨keysType, columns⟩

/-- The seed that a value describes. -/
def read? (value : Json) : Option Seed := do
  let members ← record? (memberShapes.map Prod.fst) value
  let database ← memberOr? none (optional? asText?) members "database"
  let tables ← memberOr? [] (map? readTable?) members "tables"
  return ⟨database, .ofList tables⟩

/-! ## Writing -/

/-- A table as a document. -/
def tableDocument (table : TableReport) : Document :=
  .record [("keys_type", .string table.keysType),
    ("columns", .list (table.columns.map Column.toDocument))]

/-- A seed as a document. -/
def toDocument (seed : Seed) : Document :=
  .record [("database", seed.database.elim .null .string),
    ("tables", .record (seed.tables.entries.map fun entry => (entry.1, tableDocument entry.2)))]

end Seed

end TableFeed
