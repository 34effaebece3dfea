/-!
# Whole numbers as text

Decimal text of whole numbers, zero padding, and the reading of an unsigned
number with an upper limit.
-/

namespace TableFeed.Text

/-- The decimal digits of a natural number, without superfluous zeros. -/
def natChars (n : Nat) : List Char :=
  Nat.toDigits 10 n

/-- The decimal text of an integer, with a minus sign when it is negative. -/
def intChars (n : Int) : List Char :=
  if n < 0 then '-' :: natChars n.natAbs else natChars n.natAbs

/-- The decimal text of a natural number. -/
def natText (n : Nat) : String :=
  String.ofList (natChars n)

/-- The decimal text of an integer. -/
def intText (n : Int) : String :=
  String.ofList (intChars n)

/-- The characters with zeros put before them up to `width`. -/
def padZeros (width : Nat) (cs : List Char) : List Char :=
  List.replicate (width - cs.length) '0' ++ cs

/-- The decimal digits of `n`, at least `width` of them. -/
def fixedDigits (width n : Nat) : List Char :=
  padZeros width (natChars n)

/-- The number that digits write. -/
def digitsValue (cs : List Char) : Nat :=
  Nat.ofDigitChars 10 cs 0

/-- Digits alone, at least one of them, and a value below `limit`. -/
def readDigits (limit : Nat) (cs : List Char) : Option Nat :=
  if cs ≠ [] ∧ cs.all Char.isDigit ∧ digitsValue cs < limit then some (digitsValue cs) else none

/-- Digits with at most a plus sign before them and a value below `limit`. -/
def readUnsigned (limit : Nat) (text : String) : Option Nat :=
  match text.toList with
  | '+' :: cs => readDigits limit cs
  | cs => readDigits limit cs

theorem all_isDigit_natChars (n : Nat) : (natChars n).all Char.isDigit = true :=
  List.all_eq_true.2 fun _ hc => Nat.isDigit_of_mem_toDigits (by decide) (by decide) hc

theorem digitsValue_natChars (n : Nat) : digitsValue (natChars n) = n :=
  Nat.ofDigitChars_ten_toDigits

theorem natChars_ne_nil (n : Nat) : natChars n ≠ [] :=
  Nat.toDigits_ne_nil

end TableFeed.Text
