/-!
# Kinds of schemas

The primitive and container kinds that a schema can have, with the three names
that each is known by: in schema texts, as a key of the type registry, and in
messages.
-/

namespace TableFeed

/-- The kind of a schema. -/
inductive Kind where
  | int8
  | int16
  | int32
  | int64
  | float32
  | float64
  | boolean
  | string
  | bytes
  | array
  | map
  | struct
deriving DecidableEq, Repr

namespace Kind

/-- Every kind. -/
def all : List Kind :=
  [int8, int16, int32, int64, float32, float64, boolean, string, bytes, array, map, struct]

/-- The name in schema texts. -/
def wireName : Kind → String
  | int8 => "int8"
  | int16 => "int16"
  | int32 => "int32"
  | int64 => "int64"
  | float32 => "float"
  | float64 => "double"
  | boolean => "boolean"
  | string => "string"
  | bytes => "bytes"
  | array => "array"
  | map => "map"
  | struct => "struct"

/-- The key in the type registry. -/
def registryKey : Kind → String
  | int8 => "INT8"
  | int16 => "INT16"
  | int32 => "INT32"
  | int64 => "INT64"
  | float32 => "FLOAT32"
  | float64 => "FLOAT64"
  | boolean => "BOOLEAN"
  | string => "STRING"
  | bytes => "BYTES"
  | array => "ARRAY"
  | map => "MAP"
  | struct => "STRUCT"

/-- The name in messages. -/
def messageName : Kind → String
  | int8 => "Int8"
  | int16 => "Int16"
  | int32 => "Int32"
  | int64 => "Int64"
  | float32 => "Float32"
  | float64 => "Float64"
  | boolean => "Boolean"
  | string => "String"
  | bytes => "Bytes"
  | array => "Array"
  | map => "Map"
  | struct => "Struct"

/-- Whether values of the kind are whole numbers. -/
def isInteger : Kind → Bool
  | int8 | int16 | int32 | int64 => true
  | _ => false

/-- The kind with a name in schema texts. -/
def ofWireName? (name : String) : Option Kind :=
  all.find? fun kind => kind.wireName == name

theorem ofWireName?_wireName (kind : Kind) : ofWireName? kind.wireName = some kind := by
  cases kind <;> decide

end Kind

end TableFeed
