import TableFeed.Json.Basic
import TableFeed.Schema.Kind
import TableFeed.SortedMap
import TableFeed.Text.Pieces

/-!
# Schemas

A schema describes the values of a record, a field or an item: its kind, whether
a value may be missing, a logical name that refines the kind, a default, text
parameters, and the schemas of its parts.  The fields of a struct are in
declaration order, and their names may repeat: reading by name finds the first.
-/

namespace TableFeed

/-- A schema. -/
structure Schema where
  /-- The kind of the values. -/
  kind : Kind
  /-- Whether a value may be missing. -/
  optional : Bool
  /-- The logical type or record name. -/
  name : Option String
  /-- The version of the logical type. -/
  version : Option Int32
  /-- A note for readers, which becomes a column comment. -/
  doc : Option String
  /-- The value that stands for a missing one; it may be null itself. -/
  defaultValue : Option Json
  /-- Parameters of the logical type. -/
  parameters : SortedMap String
  /-- The fields of a struct, in declaration order. -/
  fields : List (String × Schema)
  /-- The schema of the items of an array. -/
  items : Option Schema
  /-- The schema of the keys of a map. -/
  keys : Option Schema
  /-- The schema of the values of a map. -/
  values : Option Schema
deriving BEq

namespace Schema

/-! ## Construction -/

/-- A schema of a kind with nothing else set. -/
def ofKind (kind : Kind) : Schema :=
  ⟨kind, false, none, none, none, none, .empty, [], none, none, none⟩

instance : Inhabited Schema := ⟨ofKind .struct⟩

/-- A named struct with fields. -/
def ofFields (name : String) (fields : List (String × Schema)) : Schema :=
  { ofKind .struct with name := some name, fields := fields }

/-- The schema with missing values allowed. -/
def asOptional (s : Schema) : Schema :=
  { s with optional := true }

/-- The schema with a logical name. -/
def named (s : Schema) (name : String) : Schema :=
  { s with name := some name }

/-- The schema with a default. -/
def withDefault (s : Schema) (value : Json) : Schema :=
  { s with defaultValue := some value }

/-- The schema with a note. -/
def withDoc (s : Schema) (doc : String) : Schema :=
  { s with doc := some doc }

/-- The schema with a parameter set. -/
def withParameter (s : Schema) (key value : String) : Schema :=
  { s with parameters := s.parameters.insert key value }

/-! ## Reading -/

/-- The schema of the first field with a name. -/
def field? (s : Schema) (name : String) : Option Schema :=
  s.fields.lookup name

/-- The names of the fields, in declaration order. -/
def fieldNames (s : Schema) : List String :=
  s.fields.map Prod.fst

/-- A parameter. -/
def parameter? (s : Schema) (key : String) : Option String :=
  s.parameters.get? key

/-- Whether the name holds a text. -/
def nameContains (s : Schema) (needle : String) : Bool :=
  match s.name with
  | some name => Text.contains name needle
  | none => false

end Schema

end TableFeed
