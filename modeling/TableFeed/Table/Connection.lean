import TableFeed.Table.Catalog

/-!
# The connection to the catalog

Calls reach the catalog over a connection, which may be out at some of them.  Calls
of each kind are numbered from 1, and an outage names the numbers at which the call
fails before it reaches the catalog.
-/

namespace TableFeed

/-- At which calls of each kind the connection is out. -/
structure Outages where
  /-- Calls that ask whether a table exists. -/
  lookup : Nat → Bool
  /-- Calls that ask for the columns of a table. -/
  load : Nat → Bool
  /-- Calls that add a column. -/
  addition : Nat → Bool
  /-- What the error of such a call says. -/
  details : String

/-- A connection that is never out. -/
def Outages.never : Outages :=
  ⟨fun _ => false, fun _ => false, fun _ => false, ""⟩

/-- The catalog behind a connection. -/
structure Connection where
  /-- The catalog. -/
  catalog : Catalog
  /-- The calls that fail. -/
  outages : Outages
  /-- The calls tried so far, failed ones included. -/
  tried : CallCounts

namespace Connection

/-- A fresh connection. -/
def ofCatalog (catalog : Catalog) (outages : Outages) : Connection :=
  ⟨catalog, outages, .zero⟩

/-- The error of a call at which the connection is out. -/
def outError (c : Connection) : CatalogError :=
  .connection c.outages.details

/-- Whether a table exists. -/
def tableExists (c : Connection) (database table : String) :
    Except CatalogError Bool × Connection :=
  let number := c.tried.lookups + 1
  let c := { c with tried.lookups := number }
  if c.outages.lookup number then (.error c.outError, c)
  else
    let (answer, catalog) := c.catalog.tableExists database table
    (answer, { c with catalog := catalog })

/-- The report of a table. -/
def loadTable (c : Connection) (database table : String) :
    Except CatalogError TableReport × Connection :=
  let number := c.tried.loads + 1
  let c := { c with tried.loads := number }
  if c.outages.load number then (.error c.outError, c)
  else
    let (answer, catalog) := c.catalog.loadTable database table
    (answer, { c with catalog := catalog })

/-- Adds a column at the end of a table. -/
def addColumn (c : Connection) (database table : String) (column : NewColumn) :
    Except CatalogError Unit × Connection :=
  let number := c.tried.additions + 1
  let c := { c with tried.additions := number }
  if c.outages.addition number then (.error c.outError, c)
  else
    let (answer, catalog) := c.catalog.addColumn database table column
    (answer, { c with catalog := catalog })

end Connection

end TableFeed
