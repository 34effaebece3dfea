import TableFeed.Json.Document
import TableFeed.Schema.Basic

/-!
# Schemas as documents

`Schema.toDocument` writes a schema.  Its kind and whether it is optional are
always there, every other member only when it says something.  A field is a record
of its name followed by the members of its schema.
-/

namespace TableFeed.Schema

/-- A member that is there when it has a value. -/
def memberOf (key : String) (value : Option Document) : List (String × Document) :=
  match value with
  | some document => [(key, document)]
  | none => []

/-- The members that do not hold schemas, as far as the parameters. -/
def scalarMembers (s : Schema) : List (String × Document) :=
  [("type", .string s.kind.wireName), ("optional", .bool s.optional)]
    ++ memberOf "name" (s.name.map .string)
    ++ memberOf "version" (s.version.map fun version =>
        .value ((Whole.ofInt? version.toInt).elim .null fun n => .number (.whole n)))
    ++ memberOf "doc" (s.doc.map .string)
    ++ memberOf "default" (s.defaultValue.map .value)
    ++ memberOf "parameters" (if s.parameters.isEmpty then none else
        some (.record (s.parameters.entries.map fun (key, value) => (key, .string value))))

mutual

/-- A schema as a document. -/
def toDocument : Schema → Document
  | s@⟨_, _, _, _, _, _, _, fields, items, keys, values⟩ =>
    .record (s.scalarMembers
      ++ fieldsMember fields
      ++ memberOf "items" (partDocument? items)
      ++ memberOf "keys" (partDocument? keys)
      ++ memberOf "values" (partDocument? values))

/-- The member that holds the fields, when there are any. -/
def fieldsMember : List (String × Schema) → List (String × Document)
  | [] => []
  | (name, s) :: rest => [("fields", .list (fieldDocument name s :: fieldDocuments rest))]

/-- Fields as documents. -/
def fieldDocuments : List (String × Schema) → List Document
  | [] => []
  | (name, s) :: rest => fieldDocument name s :: fieldDocuments rest

/-- A field as a document: its name, then the members of its schema. -/
def fieldDocument (name : String) : Schema → Document
  | s@⟨_, _, _, _, _, _, _, fields, items, keys, values⟩ =>
    .record (("field", .string name) :: (s.scalarMembers
      ++ fieldsMember fields
      ++ memberOf "items" (partDocument? items)
      ++ memberOf "keys" (partDocument? keys)
      ++ memberOf "values" (partDocument? values)))

/-- The schema of a part as a document. -/
def partDocument? : Option Schema → Option Document
  | none => none
  | some s => some s.toDocument

end

/-- The text of a schema. -/
def text (s : Schema) : String :=
  s.toDocument.text

end TableFeed.Schema
