import TableFeed.Number.Binary64
import TableFeed.Text.Digits

/-!
# Shortest decimal text of a number

`shortest` finds the fewest decimal digits that read back as the number, and of
those the nearest.  It works on the interval of reals that round to the number,
its ends included when the significand is even, and tries the grids `10^k` from
coarse to fine: on each it tests the two grid points beside the number.  If any
point of a grid lies in the interval then one of these two does, so the first
grid with a hit has the fewest digits.

`Binary64.chars` writes the digits out.  A number whose first digit has a decimal
exponent from -5 to 15 is written with a point and at least one digit after it,
any other with an exponent that carries its sign.
-/

namespace TableFeed.Binary64

/-- Digits and the power of ten they are multiplied by. -/
structure Decimal where
  /-- The digits, as a number. -/
  digits : Nat
  /-- The exponent of ten. -/
  exponent : Int
deriving DecidableEq, Repr

/-- The interval of reals that round to a number, in quarters of its last place. -/
structure Interval where
  /-- The lower end. -/
  low : Nat
  /-- The number itself. -/
  middle : Nat
  /-- The upper end. -/
  high : Nat
  /-- Whether the ends belong to the interval. -/
  closed : Bool

/-- The interval around a number.  Below a power of two the numbers lie twice as dense. -/
def interval (x : Binary64) : Interval where
  low := 4 * x.significand - (if x.significand = twoTo 52 ∧ -1074 < x.exponent then 1 else 2)
  middle := 4 * x.significand
  high := 4 * x.significand + 2
  closed := x.significand % 2 = 0

/-- Whether a point lies in the interval, both in the same unit of `scale` to a quarter. -/
def Interval.holds (i : Interval) (scale point : Nat) : Bool :=
  if i.closed then i.low * scale ≤ point && point ≤ i.high * scale
  else i.low * scale < point && point < i.high * scale

/-- A point of the grid `10^k` in the interval, if there is one: the nearer of the two beside the
number, the even one of two that are equally near.  `quarter` is the exponent of two of a quarter
of the last place. -/
def onGrid? (i : Interval) (quarter k : Int) : Option Nat :=
  -- scale : step are the quarter and the grid's step in a common unit
  let scale := twoTo quarter.toNat * tenTo (-k).toNat
  let step := tenTo k.toNat * twoTo (-quarter).toNat
  let value := i.middle * scale
  let below := value / step
  let lowHit := i.holds scale (below * step)
  let highHit := i.holds scale ((below + 1) * step)
  if lowHit && highHit then
    let twice := 2 * (value - below * step)
    if twice < step ∨ twice = step ∧ below % 2 = 0 then some below else some (below + 1)
  else if lowHit then some below
  else if highHit then some (below + 1)
  else none

/-- The first of `steps` grids from `10^k` downwards that meets the interval. -/
def searchGrids (i : Interval) (quarter : Int) (k : Int) : Nat → Option Decimal
  | 0 => none
  | steps + 1 =>
    match onGrid? i quarter k with
    | some digits => some ⟨digits, k⟩
    | none => searchGrids i quarter (k - 1) steps

/-- An upper bound of the decimal exponent of a number's first digit. -/
def decimalExponentBound (x : Binary64) : Int :=
  (((x.significand.log2 : Int) + x.exponent + 1) * 30103).fdiv 100000 + 1

/-- The fewest digits that read back as the number, and of those the nearest; seventeen digits
always do, and the bound is at most two grids above the first digit. -/
def shortest (x : Binary64) : Decimal :=
  if x.isZero then ⟨0, 0⟩
  else (searchGrids x.interval (x.exponent - 2) x.decimalExponentBound 20).getD ⟨0, 0⟩

/-! ## Writing the digits -/

/-- The lowest decimal exponent of a first digit that is written with a point. -/
def plainFrom : Int := -5

/-- The highest decimal exponent of a first digit that is written with a point. -/
def plainTo : Int := 15

/-- Digits with a point and at least one digit after it. -/
def plainChars (digits : List Char) (exponent : Int) : List Char :=
  if 0 ≤ exponent then digits ++ List.replicate exponent.toNat '0' ++ ['.', '0']
  else
    let places := (-exponent).toNat
    let padded := Text.padZeros (places + 1) digits
    padded.take (padded.length - places) ++ '.' :: padded.drop (padded.length - places)

/-- Digits with the point after the first one and an exponent; no point after a single digit. -/
def scientificChars (digits : List Char) (first : Int) : List Char :=
  let mantissa :=
    match digits with
    | [] => []
    | [d] => [d]
    | d :: rest => d :: '.' :: rest
  let sign := if first < 0 then '-' else '+'
  mantissa ++ 'e' :: sign :: Text.natChars first.natAbs

/-- The text of a number without its sign. -/
def unsignedChars (d : Decimal) : List Char :=
  let digits := Text.natChars d.digits
  let first := d.exponent + (digits.length : Int) - 1
  if plainFrom ≤ first ∧ first ≤ plainTo then plainChars digits d.exponent
  else scientificChars digits first

/-- The text of a number: the fewest digits that read back as it. -/
def chars (x : Binary64) : List Char :=
  (if x.negative then ['-'] else []) ++ unsignedChars x.shortest

end TableFeed.Binary64
