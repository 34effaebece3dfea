import TableFeed.Json.Record
import TableFeed.Shape
import TableFeed.Table.Column

/-!
# Reading columns and reports

Columns and reports are records.  A column needs a name and a type, a report needs
nothing.
-/

namespace TableFeed

open Json

/-- The members of a column. -/
def Column.memberShapes : List (String × Shape) :=
  [("name", .text), ("type", .text), ("comment", .text)]

/-- The column that a value describes. -/
def Column.read? (value : Json) : Option Column := do
  let members ← record? (Column.memberShapes.map Prod.fst) value
  let name ← member? asText? members "name"
  let typeName ← member? asText? members "type"
  let comment ← memberOr? "" asText? members "comment"
  return ⟨name, typeName, comment⟩

/-- The report that a value describes. -/
def TableReport.read? (value : Json) : Option TableReport := do
  let members ← record? ["keysType", "properties"] value
  let keysType ← memberOr? "" asText? members "keysType"
  let columns ← memberOr? [] (list? Column.read?) members "properties"
  return ⟨keysType, columns⟩

end TableFeed
