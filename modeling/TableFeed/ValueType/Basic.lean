import TableFeed.Json.Printer
import TableFeed.Schema.Basic
import TableFeed.Schema.Error

/-!
# Value types

A value type turns the raw value of a field into the value that a row carries, and
names the column that the field needs.  Null stays null.  A type whose values are
numbers puts them into the row as JSON numbers; the values of every other type go
in as texts.
-/

namespace TableFeed

/-- Why a text or object is no value of a type, beyond its kind. -/
inductive InvalidCause where
  /-- The scale of a decimal is not there or is no unsigned number of 32 bits. -/
  | missingScale
  /-- The scale of a decimal is above the largest one. -/
  | scaleTooLarge (scale : Nat)
  /-- The unscaled number of a decimal is not there. -/
  | missingValue
  /-- The text is no timestamp. -/
  | timestamp (text fault : String)
deriving DecidableEq, Repr

/-- The wording of a cause. -/
def InvalidCause.message : InvalidCause → String
  | .missingScale => "missing or negative scale"
  | .scaleTooLarge scale =>
    "scale " ++ Text.natText scale ++ " exceeds " ++ Text.natText Decimal.maxScale
  | .missingValue => "missing value"
  | .timestamp text fault => Text.quoted text ++ ": " ++ fault

/-- Why a raw value cannot be converted; `type` is the name of the value type. -/
inductive TypeError where
  /-- The value has a kind that the type does not take. -/
  | unexpected (type found : String)
  /-- The number, given by its text, is outside the range of the type. -/
  | outOfRange (type value : String)
  /-- The value has the right kind but does not say what the type needs. -/
  | invalid (type : String) (cause : InvalidCause)
  /-- The value is no decimal. -/
  | decimal (error : SchemaError)
deriving DecidableEq, Repr

/-- The wording of a conversion error. -/
def TypeError.message : TypeError → String
  | .unexpected type found => type ++ ": cannot convert " ++ found ++ " value"
  | .outOfRange type value => type ++ ": value " ++ value ++ " is out of range"
  | .invalid type cause => type ++ ": " ++ cause.message
  | .decimal error => error.message

/-- A type of values. -/
structure ValueType where
  /-- The name of the type in messages. -/
  name : String
  /-- The keys that the type is registered under. -/
  keys : List String
  /-- Whether the values of the type are numbers. -/
  isNumber : Bool
  /-- The row value of a raw value under a schema. -/
  convert : Schema → Json → Except TypeError Json
  /-- The column type of a field with a schema. -/
  columnType : Schema → String

namespace ValueType

/-- The error of a value whose kind a type does not take. -/
def unexpected (type : String) (value : Json) : TypeError :=
  .unexpected type value.kindName

/-- Converts null to null and leaves any other value to `convert`. -/
def nullOr (convert : Json → Except TypeError Json) (value : Json) : Except TypeError Json :=
  match value with
  | .null => .ok .null
  | value => convert value

/-- Leaves texts as they are and refuses other values. -/
def textOnly (type : String) (_ : Schema) : Json → Except TypeError Json :=
  nullOr fun
    | .string text => .ok (.string text)
    | other => .error (unexpected type other)

/-- A value as it stands in a row: numbers of a numeric type as they are, anything else as text. -/
def rowValue (type : ValueType) (converted : Json) : Json :=
  if type.isNumber then converted
  else
    match converted with
    | .null => .null
    | .string text => .string text
    | other => .string other.text

end ValueType

end TableFeed
