import TableFeed.Json.Reader

/-!
# Plain scalars

A scalar without quotes is read as a text wherever a text is asked for.  Where any
value may stand, it is a text only if it is nothing else: not nothing, not a truth
value and not a number.  `isOwnText` decides that.
-/

namespace TableFeed.Yaml

/-- The words for nothing. -/
def nullWords : List String :=
  ["~", "null", "Null", "NULL"]

/-- The words for truth values. -/
def boolWords : List String :=
  ["true", "True", "TRUE", "false", "False", "FALSE"]

/-- The words for numbers that are no digits. -/
def specialNumbers : List String :=
  [".inf", ".Inf", ".INF", "+.inf", "+.Inf", "+.INF", "-.inf", "-.Inf", "-.INF", ".nan", ".NaN",
    ".NAN"]

/-- Whether a plain scalar stands for nothing. -/
def isNothing (scalar : String) : Bool :=
  scalar = "" || nullWords.contains scalar

/-- The value of a digit in a base up to sixteen. -/
def baseDigit? (base : Nat) (c : Char) : Option Nat :=
  (Json.Reader.hexValue? c).filter (· < base)

/-- Whether digits in a base write a number below `limit`. -/
def isBelow (base limit : Nat) (cs : List Char) : Bool :=
  match cs.mapM (baseDigit? base) with
  | some [] => false
  | some digits => digits.foldl (fun value d => value * base + d) 0 < limit
  | none => false

/-- Whether characters are a marked base and digits in it, below `limit`. -/
def isBased (limit : Nat) : List Char → Bool
  | '0' :: 'x' :: cs => isBelow 16 limit cs
  | '0' :: 'o' :: cs => isBelow 8 limit cs
  | '0' :: 'b' :: cs => isBelow 2 limit cs
  | _ => false

/-- Whether a scalar is a whole number in a marked base. -/
def isBasedInteger : List Char → Bool
  | '-' :: cs => isBased (twoTo 127 + 1) cs
  | '+' :: cs => isBased (twoTo 128) cs
  | cs => isBased (twoTo 128) cs

/-- The digits around a point, at least one, with an exponent that may follow. -/
def decimalParts? (cs : List Char) : Option (Nat × Int) := do
  let (whole, rest) := cs.span Char.isDigit
  let (fraction, rest) :=
    match rest with
    | '.' :: rest => rest.span Char.isDigit
    | rest => ([], rest)
  if whole = [] ∧ fraction = [] then none
  else
    match Json.Reader.exponent? rest with
    | some (exponent, []) =>
      some (Text.digitsValue (whole ++ fraction), exponent.getD 0 - (fraction.length : Int))
    | _ => none

/-- Whether `significand · 10^exponent` is at most the largest number of 64 bits. -/
def isFinite (significand : Nat) (exponent : Int) : Bool :=
  let magnitude := (Text.natChars significand).length + exponent
  if significand = 0 ∨ magnitude < 300 then true
  else if 310 < magnitude then false
  else
    (Binary64.ofRatio? false (significand * tenTo exponent.toNat) (tenTo (-exponent).toNat)).isSome

/-- Whether characters are a zero followed by digits, which is a text. -/
def isZeroPadded (cs : List Char) : Bool :=
  match cs with
  | '0' :: d :: rest => (d :: rest).all Char.isDigit
  | _ => false

/-- The characters after a sign. -/
def afterSign : List Char → List Char
  | '+' :: cs => cs
  | '-' :: cs => cs
  | cs => cs

/-- Whether a scalar is a decimal number. -/
def isDecimal (cs : List Char) : Bool :=
  let unsigned := afterSign cs
  !isZeroPadded unsigned &&
    match decimalParts? unsigned with
    | some (significand, exponent) => isFinite significand exponent
    | none => false

/-- Whether a plain scalar is a text where any value may stand. -/
def isOwnText (scalar : String) : Bool :=
  !isNothing scalar && !boolWords.contains scalar && !specialNumbers.contains scalar
    && !isBasedInteger scalar.toList && !isDecimal scalar.toList

end TableFeed.Yaml
