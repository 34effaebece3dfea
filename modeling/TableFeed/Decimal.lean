import TableFeed.Base64
import TableFeed.Json.Printer
import TableFeed.Text.Utf8

/-!
# Exact decimals

A decimal arrives as an unscaled whole number and a scale, the number of its
fraction digits.  The unscaled number is the two's complement of at most sixteen
bytes, most significant first, written as base64; or the value is a JSON number
already and its text is taken over.

`Decimal.chars` writes a scaled number with exactly `scale` fraction digits.
-/

namespace TableFeed.Decimal

/-- The largest scale that a destination column can hold. -/
def maxScale : Nat := 38

/-- The most bytes of an unscaled number. -/
def maxBytes : Nat := 16

/-- Why a value is no decimal. -/
inductive Fault where
  /-- The scale is above the largest one. -/
  | scaleTooLarge (scale : Nat)
  /-- The scale parameter of the schema is no number. -/
  | invalidScale (raw : String)
  /-- The text is not base64. -/
  | notBase64 (fault : Base64.Fault)
  /-- The unscaled number has too many bytes. -/
  | tooManyBytes (count : Nat)
  /-- The value is neither a text nor a number. -/
  | unexpectedKind (kind : String)
  /-- The text of the decimal is no JSON number. -/
  | notANumber
deriving DecidableEq, Repr

/-! ## The unscaled number -/

/-- The number that bytes write, most significant first. -/
def unsignedValue (bytes : List UInt8) : Nat :=
  bytes.foldl (fun value b => value * 256 + b.toNat) 0

/-- Whether the sign bit is set. -/
def isNegative : List UInt8 → Bool
  | [] => false
  | b :: _ => 0x80 ≤ b

/-- The two's complement value of bytes, most significant first; no bytes are zero. -/
def twosComplement (bytes : List UInt8) : Int :=
  if isNegative bytes then (unsignedValue bytes : Int) - twoTo (8 * bytes.length)
  else unsignedValue bytes

/-! ## Text -/

/-- The text of `unscaled / 10^scale` with exactly `scale` fraction digits. -/
def chars (unscaled : Int) (scale : Nat) : List Char :=
  let sign := if unscaled < 0 then ['-'] else []
  let digits := Text.natChars unscaled.natAbs
  if scale = 0 then sign ++ digits
  else
    let padded := Text.padZeros (scale + 1) digits
    let whole := padded.length - scale
    sign ++ (padded.take whole ++ '.' :: padded.drop whole)

/-! ## Decoding -/

/-- The unscaled number of a base64 text. -/
def unscaled (encoded : String) : Except Fault Int :=
  match Base64.decode (Text.Utf8.encode encoded) with
  | .error fault => .error (.notBase64 fault)
  | .ok bytes =>
    if maxBytes < bytes.length then .error (.tooManyBytes bytes.length)
    else .ok (twosComplement bytes)

/-- The decimal text of a value with a scale. -/
def decode (value : Json) (scale : Nat) : Except Fault (List Char) :=
  if maxScale < scale then .error (.scaleTooLarge scale)
  else
    match value with
    | .number n => .ok n.chars
    | .string encoded => (unscaled encoded).map fun n => chars n scale
    | other => .error (.unexpectedKind other.kindName)

end TableFeed.Decimal
