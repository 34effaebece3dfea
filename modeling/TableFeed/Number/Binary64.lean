import TableFeed.Number.Power

/-!
# Binary floating point

A finite binary64 number is a sign, a significand below `2^53` and an exponent of
two.  `Canonical` fixes one such form for every number, so two numbers are the
same datum exactly when they have the same bits; the two zeros are told apart.

`ofRatio?` rounds an exact quotient to the nearest number, a tie to the even
significand, and answers `none` beyond the largest one.  Products and quotients
are rounded once, from the exact value.

`ofScientific?` is the reading of decimal text.  It takes the significand as a
binary64 number first and then multiplies or divides by a power of ten, so the
result may differ in its last bit from the nearest number.  That is the rule of
the format this library reads, not a shortcut.
-/

namespace TableFeed

/-- The one accepted form of a significand and an exponent. -/
def Binary64.Canonical (significand : Nat) (exponent : Int) : Prop :=
  significand < twoTo 53 ∧ -1074 ≤ exponent ∧ exponent ≤ 971 ∧
    (twoTo 52 ≤ significand ∨ exponent = -1074)

instance (significand : Nat) (exponent : Int) :
    Decidable (Binary64.Canonical significand exponent) :=
  inferInstanceAs (Decidable (_ ∧ _))

/-- A finite number `±significand · 2^exponent`. -/
structure Binary64 where
  /-- Whether the sign is minus; zero has a sign too. -/
  negative : Bool
  /-- The significand. -/
  significand : Nat
  /-- The exponent of two. -/
  exponent : Int
  /-- The form is the canonical one. -/
  canonical : Binary64.Canonical significand exponent
deriving DecidableEq

namespace Binary64

/-- Zero with a sign. -/
def zero (negative : Bool) : Binary64 :=
  ⟨negative, 0, -1074, by decide⟩

/-- Whether the number is one of the two zeros. -/
def isZero (x : Binary64) : Bool :=
  x.significand == 0

/-! ## Rounding -/

/-- The whole number nearest to `num / den`, a tie to the even one. -/
def roundHalfEven (num den : Nat) : Nat :=
  let quotient := num / den
  let twice := 2 * (num % den)
  if twice < den then quotient
  else if den < twice then quotient + 1
  else quotient + quotient % 2

/-- `num / den` rounded to a whole multiple of `2^exponent`, as the multiple. -/
def roundAt (num den : Nat) (exponent : Int) : Nat :=
  if 0 ≤ exponent then roundHalfEven num (den * twoTo exponent.toNat)
  else roundHalfEven (num * twoTo (-exponent).toNat) den

/-- The exponent of the highest power of two that is at most `num / den`. -/
def floorLog2 (num den : Nat) : Int :=
  let guess : Int := (num.log2 : Int) - (den.log2 : Int)
  let reached : Bool :=
    if 0 ≤ guess then den * twoTo guess.toNat ≤ num else den ≤ num * twoTo (-guess).toNat
  if reached then guess else guess - 1

/-- The number nearest to `±num / den`; `none` when that is beyond the largest number. -/
def ofRatio? (negative : Bool) (num den : Nat) : Option Binary64 :=
  if num = 0 then some (zero negative)
  else
    let exponent := max (-1074) (floorLog2 num den - 52)
    let significand := roundAt num den exponent
    if h : Canonical significand exponent then some ⟨negative, significand, exponent, h⟩
    else if h : Canonical (significand / 2) (exponent + 1) then
      some ⟨negative, significand / 2, exponent + 1, h⟩
    else none

/-- The absolute value as a quotient of natural numbers. -/
def ratio (x : Binary64) : Nat × Nat :=
  if 0 ≤ x.exponent then (x.significand * twoTo x.exponent.toNat, 1)
  else (x.significand, twoTo (-x.exponent).toNat)

/-- The product, rounded once. -/
def mul? (x y : Binary64) : Option Binary64 :=
  ofRatio? (x.negative != y.negative) (x.ratio.1 * y.ratio.1) (x.ratio.2 * y.ratio.2)

/-- The quotient, rounded once. -/
def div? (x y : Binary64) : Option Binary64 :=
  ofRatio? (x.negative != y.negative) (x.ratio.1 * y.ratio.2) (x.ratio.2 * y.ratio.1)

/-! ## Decimal text -/

/-- The largest power of ten that a reader multiplies or divides by in one step. -/
def largestPower : Nat := 308

/-- A power of ten as a number. -/
def tenPower? (n : Nat) : Option Binary64 :=
  ofRatio? false (tenTo n) 1

/-- `±significand · 10^exponent` as decimal text is read: the significand as a number, then one
multiplication or division by a power of ten, or two divisions for an exponent below the largest
power.  `none` when the result is beyond the largest number. -/
def ofScientific? (negative : Bool) (significand : Nat) (exponent : Int) : Option Binary64 := do
  let x ← ofRatio? negative significand 1
  if x.isZero then
    return x
  else if 0 ≤ exponent then
    if exponent ≤ largestPower then x.mul? (← tenPower? exponent.toNat) else none
  else if -exponent ≤ largestPower then
    x.div? (← tenPower? (-exponent).toNat)
  else if -exponent ≤ 2 * largestPower then
    let y ← x.div? (← tenPower? largestPower)
    y.div? (← tenPower? ((-exponent).toNat - largestPower))
  else
    return zero negative

end Binary64

end TableFeed
