import TableFeed.Schema.Struct
import TableFeed.ValueType.Basic

/-!
# Types of decimals

Decimals become decimal text.  The scale of the one type stands in the schema, of
the other beside each unscaled number.
-/

namespace TableFeed.ValueType

/-- The parameter that holds the precision of a decimal column. -/
def precisionParameter : String := "connect.decimal.precision"

/-- The largest precision of a decimal column. -/
def maxPrecision : Nat := 38

/-- The text of a decimal. -/
def decimalText (value : Json) (scale : Nat) : Except Decimal.Fault Json :=
  (Decimal.decode value scale).map fun digits => .string (String.ofList digits)

/-- The column type of a decimal: a precision the destination can hold and a scale no larger, or
text when the schema tells no such precision or no scale. -/
def decimalColumn (s : Schema) : String :=
  match (s.parameter? precisionParameter).bind (Text.readUnsigned (twoTo 32)), s.decimalScale with
  | some precision, .ok scale =>
    if 0 < precision ∧ precision ≤ maxPrecision then
      "DECIMAL(" ++ Text.natText precision ++ "," ++ Text.natText (min scale precision) ++ ")"
    else "STRING"
  | _, _ => "STRING"

/-- Decimals whose scale stands in the schema. -/
def decimal : ValueType where
  name := "decimal"
  keys := [Decimal.logicalName]
  isNumber := false
  convert s := nullOr fun value =>
    (s.decimalScale.bind (decimalText value)).mapError fun fault => .decimal (.decimal "" fault)
  columnType := decimalColumn

/-- The scale that an object holds. -/
def scaleMember? (members : List (String × Json)) : Option Nat :=
  match members.lookup "scale" with
  | some (.number n) => n.nat64?.filter (· < twoTo 32)
  | _ => none

/-- Decimals that carry their scale. -/
def variableScaleDecimal : ValueType where
  name := "variable_scale_decimal"
  keys := ["io.debezium.data.VariableScaleDecimal"]
  isNumber := false
  convert _ := nullOr fun
    | .object members =>
      match scaleMember? members with
      | none => .error (.invalid "variable_scale_decimal" .missingScale)
      | some scale =>
        if Decimal.maxScale < scale then
          .error (.invalid "variable_scale_decimal" (.scaleTooLarge scale))
        else
          match members.lookup "value" with
          | none => .error (.invalid "variable_scale_decimal" .missingValue)
          | some unscaled =>
            (decimalText unscaled scale).mapError fun fault => .decimal (.decimal "" fault)
    | other => .error (unexpected "variable_scale_decimal" other)
  columnType _ := "STRING"

end TableFeed.ValueType
