import TableFeed.Decimal
import TableFeed.Schema.Kind
import TableFeed.Text.Quoted

/-!
# Disagreement of a payload with its schema

The ways in which a payload fails its schema, each with the path of the field it
happened at, and their wording.
-/

namespace TableFeed

/-- The wording of a decimal fault.  Texts from the input are quoted. -/
def Decimal.Fault.message : Decimal.Fault → String
  | .scaleTooLarge scale =>
    "scale " ++ Text.natText scale ++ " exceeds " ++ Text.natText Decimal.maxScale
  | .invalidScale raw => "invalid scale parameter " ++ Text.quoted raw
  | .notBase64 fault => "base64: " ++ fault.message
  | .tooManyBytes count => Text.natText count ++ " byte unscaled value exceeds 128 bits"
  | .unexpectedKind kind => "unexpected " ++ kind ++ " value"
  | .notANumber => "not a number"

/-- Why a payload does not agree with a schema. -/
inductive SchemaError where
  /-- The schema itself cannot be read. -/
  | invalidSchema
  /-- A structured value needs a struct schema. -/
  | notAStruct (found : Kind)
  /-- A value has a kind that the schema does not allow. -/
  | typeMismatch (field : String) (expected : Kind) (found : String)
  /-- A value is missing that is neither optional nor has a default. -/
  | missingRequired (field : String)
  /-- The schema does not declare the field. -/
  | unknownField (field : String)
  /-- A decimal cannot be decoded. -/
  | decimal (field : String) (fault : Decimal.Fault)
deriving DecidableEq, Repr

/-- The wording of a disagreement. -/
def SchemaError.message : SchemaError → String
  | .invalidSchema => "invalid schema"
  | .notAStruct found => "expected a struct schema, found " ++ found.messageName
  | .typeMismatch field expected found =>
    "field " ++ field ++ ": expected " ++ expected.messageName ++ ", found " ++ found
  | .missingRequired field =>
    "field " ++ field ++ " is required but has no value and no default"
  | .unknownField field => "unknown field " ++ field
  | .decimal field fault => "field " ++ field ++ ": invalid decimal: " ++ fault.message

end TableFeed
