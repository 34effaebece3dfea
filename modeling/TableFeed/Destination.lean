import TableFeed.Event
import TableFeed.Table.Cache
import TableFeed.Table.Connection

/-!
# The destination

The destination is the catalog, reached over its connection, and what the cache knows
of it.  `Destination.ensureColumns` makes sure that a table has a column for every
field of an event.  It asks whether the table exists unless that is known, and for its
columns unless they are known.  Missing columns are added in the order of the fields,
when that is allowed, and the columns are asked for once more.

The cache learns only from answers.  An addition that fails leaves it as it was, even
though columns before the failing one may have been added.
-/

namespace TableFeed

/-- The catalog and what is known of it. -/
structure Destination where
  /-- The catalog behind its connection. -/
  connection : Connection
  /-- What is known of the tables. -/
  cache : TableCache

namespace Destination

/-- A destination of which nothing is known. -/
def ofCatalog (catalog : Catalog) (outages : Outages) : Destination :=
  ⟨.ofCatalog catalog outages, .empty⟩

/-- Makes sure that a table is known to exist. -/
def confirm (database table : String) (d : Destination) :
    Except TransformError Unit × Destination :=
  if d.cache.isKnown table then (.ok (), d)
  else
    match d.connection.tableExists database table with
    | (.error error, connection) =>
      (.error (.catalog table error), { d with connection := connection })
    | (.ok false, connection) =>
      (.error (.missingTable database table), { d with connection := connection })
    | (.ok true, connection) => (.ok (), ⟨connection, d.cache.set table .unloaded⟩)

/-- Asks for the columns of a table and remembers them. -/
def load (database table : String) (d : Destination) :
    Except TransformError TableSnapshot × Destination :=
  match d.connection.loadTable database table with
  | (.error error, connection) =>
    (.error (.catalog table error), { d with connection := connection })
  | (.ok report, connection) =>
    let snapshot := TableSnapshot.ofReport table report
    (.ok snapshot, ⟨connection, d.cache.set table (.loaded snapshot)⟩)

/-- The columns of a table as far as they are known, asked for if they are not. -/
def current (database table : String) (d : Destination) :
    Except TransformError TableSnapshot × Destination :=
  match d.cache.snapshot? table with
  | some snapshot => (.ok snapshot, d)
  | none => d.load database table

/-- Adds columns one after the other up to the first that fails. -/
def addColumns (database table : String) :
    List NewColumn → Connection → Except TransformError Unit × Connection
  | [], c => (.ok (), c)
  | column :: rest, c =>
    match c.addColumn database table column with
    | (.error error, c) => (.error (.alteration column.name table error), c)
    | (.ok (), c) => addColumns database table rest c

/-- The fields for which a table has no column. -/
def missing (snapshot : TableSnapshot) (event : Event) : List EventField :=
  event.fields.filter fun field => !snapshot.hasColumn field.name

/-- Adds the columns that a table lacks and asks for its columns once more. -/
def evolve (database : String) (evolution : Evolution) (table : String)
    (fields : List EventField) (d : Destination) :
    Except TransformError TableSnapshot × Destination :=
  match evolution with
  | .disabled => (.error (.evolutionDisabled table (fields.map EventField.name)), d)
  | .basic =>
    match addColumns database table (fields.map EventField.column) d.connection with
    | (.error error, connection) => (.error error, { d with connection := connection })
    | (.ok (), connection) => load database table { d with connection := connection }

/-- Makes sure that a table has a column for every field of an event; answers the columns that the
event was checked against. -/
def ensureColumns (database : String) (evolution : Evolution) (table : String) (event : Event)
    (d : Destination) : Except TransformError TableSnapshot × Destination :=
  match d.confirm database table with
  | (.error error, d) => (.error error, d)
  | (.ok (), d) =>
    match d.current database table with
    | (.error error, d) => (.error error, d)
    | (.ok snapshot, d) =>
      match missing snapshot event with
      | [] => (.ok snapshot, d)
      | field :: rest => d.evolve database evolution table (field :: rest)

end Destination

end TableFeed
