import TableFeed.Text.Digits
import TableFeed.ValueType.Basic

/-!
# Types of plain values

The types of the primitive and container kinds.  Each leaves its values as they
are; whole numbers are held to the range of their kind.
-/

namespace TableFeed.ValueType

/-- Signed whole numbers of a number of bits. -/
def integer (name key columnType : String) (bits : Nat) : ValueType where
  name := name
  keys := [key]
  isNumber := true
  convert _ := nullOr fun
    | .number n =>
      match n.int64? with
      | some value =>
        if -(twoTo (bits - 1) : Int) ≤ value ∧ value < twoTo (bits - 1) then .ok (.number n)
        else .error (.outOfRange name n.text)
      | none => .error (.outOfRange name n.text)
    | other => .error (unexpected name other)
  columnType _ := columnType

/-- Whole numbers of 8 bits. -/
def int8 : ValueType := integer "int8" "INT8" "TINYINT" 8

/-- Whole numbers of 16 bits. -/
def int16 : ValueType := integer "int16" "INT16" "SMALLINT" 16

/-- Whole numbers of 32 bits. -/
def int32 : ValueType := integer "int32" "INT32" "INT" 32

/-- Whole numbers of 64 bits. -/
def int64 : ValueType := integer "int64" "INT64" "BIGINT" 64

/-- Floating-point numbers. -/
def floating (name key columnType : String) : ValueType where
  name := name
  keys := [key]
  isNumber := true
  convert _ := nullOr fun
    | .number n => .ok (.number n)
    | other => .error (unexpected name other)
  columnType _ := columnType

/-- Floating-point numbers of 32 bits. -/
def float32 : ValueType := floating "float32" "FLOAT32" "FLOAT"

/-- Floating-point numbers of 64 bits. -/
def float64 : ValueType := floating "float64" "FLOAT64" "DOUBLE"

/-- Truth values. -/
def boolean : ValueType where
  name := "boolean"
  keys := ["BOOLEAN"]
  isNumber := false
  convert _ := nullOr fun
    | .bool b => .ok (.bool b)
    | other => .error (unexpected "boolean" other)
  columnType _ := "BOOLEAN"

/-- The parameter that holds the length of the source column in characters. -/
def sourceLengthParameter : String := "__debezium.source.column.length"

/-- The most bytes of a column with a declared length. -/
def maxVarcharBytes : Nat := 65533

/-- The bytes to reserve for a number of characters, three for each, but never more than the largest
number of 64 bits. -/
def varcharBytes (length : Nat) : Nat :=
  min (3 * length) (twoTo 64 - 1)

/-- The column type of a text: with a length of three bytes for each character of the source
column when that is known and fits, and without a length otherwise. -/
def stringColumn (s : Schema) : String :=
  match (s.parameter? sourceLengthParameter).bind (Text.readUnsigned (twoTo 64)) with
  | some length =>
    if 0 < varcharBytes length ∧ varcharBytes length ≤ maxVarcharBytes then
      "VARCHAR(" ++ Text.natText (varcharBytes length) ++ ")"
    else "STRING"
  | none => "STRING"

/-- Texts. -/
def string : ValueType where
  name := "string"
  keys := ["STRING"]
  isNumber := false
  convert := textOnly "string"
  columnType := stringColumn

/-- Bytes, carried as base64 text. -/
def bytes : ValueType where
  name := "bytes"
  keys := ["BYTES"]
  isNumber := false
  convert := textOnly "bytes"
  columnType _ := "STRING"

/-- Arrays and maps, which a row holds as JSON text. -/
def container : ValueType where
  name := "container"
  keys := ["ARRAY", "MAP"]
  isNumber := false
  convert _ := nullOr fun
    | .array items => .ok (.array items)
    | .object members => .ok (.object members)
    | other => .error (unexpected "container" other)
  columnType _ := "STRING"

/-- JSON carried as text. -/
def json : ValueType where
  name := "json"
  keys := ["io.debezium.data.Json"]
  isNumber := false
  convert := textOnly "json"
  columnType _ := "JSON"

/-- Logical types that are texts without further rules. -/
def text : ValueType where
  name := "text"
  keys := ["io.debezium.data.Enum", "io.debezium.data.EnumSet", "io.debezium.data.Uuid",
    "io.debezium.data.Xml"]
  isNumber := false
  convert := textOnly "text"
  columnType _ := "STRING"

end TableFeed.ValueType
