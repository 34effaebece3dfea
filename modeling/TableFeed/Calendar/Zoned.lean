import TableFeed.Calendar.Moment
import TableFeed.Number.Power

/-!
# Timestamps with an offset

Reads `YYYY-MM-DDTHH:MM:SS`, an optional fraction and an offset from UTC, and
answers the moment in UTC.  The text is read from left to right as bytes and the
first fault wins.  A `:60` is kept as a leap second; digits of a fraction after the
ninth are dropped; the minus of an offset may be a hyphen or the sign U+2212.
-/

namespace TableFeed.Calendar.Zoned

/-- Why a text is no timestamp. -/
inductive Fault where
  /-- The text ends too soon. -/
  | tooShort
  /-- A character stands where another is expected. -/
  | unexpected
  /-- A part has a value that does not exist. -/
  | outOfRange
  /-- Something follows the timestamp. -/
  | trailing
deriving DecidableEq, Repr

/-- The wording of a fault. -/
def Fault.message : Fault → String
  | .tooShort => "premature end of input"
  | .unexpected => "input contains invalid characters"
  | .outOfRange => "input is out of range"
  | .trailing => "trailing input"

/-- The digit that a byte writes. -/
def digit? (b : UInt8) : Option Nat :=
  if 48 ≤ b ∧ b ≤ 57 then some (b.toNat - 48) else none

/-- The number that digits write. -/
def digits (bytes : List UInt8) : Except Fault Nat :=
  bytes.foldlM (fun value b =>
    match digit? b with
    | some d => .ok (value * 10 + d)
    | none => .error .unexpected) 0

/-- The digits at the front. -/
def frontDigits (bytes : List UInt8) : List UInt8 :=
  bytes.takeWhile fun b => (digit? b).isSome

/-- Asks that a byte is one of those that may stand there. -/
def require (allowed : List UInt8) (b : UInt8) : Except Fault Unit :=
  if b ∈ allowed then .ok () else .error .unexpected

/-- The seconds of a time of day, and the nanoseconds that a leap second adds. -/
def clock (hour minute second nano : Nat) : Except Fault (Nat × Nat) :=
  let kept := if second = 60 then 59 else second
  let extra := if second = 60 then secondNanos else 0
  if hour < 24 ∧ minute < 60 ∧ kept < 60 then
    .ok (hour * 3600 + minute * 60 + kept, nano + extra)
  else .error .outOfRange

/-- The nanoseconds of a fraction and the bytes after it. -/
def fraction : List UInt8 → Except Fault (Nat × List UInt8)
  | 46 :: rest =>
    let written := frontDigits rest
    if rest = [] then .error .tooShort
    else if written = [] then .error .unexpected
    else do
      let kept := written.take 9
      let value ← digits kept
      return (value * tenTo (9 - kept.length), rest.drop written.length)
  | rest => .ok (0, rest)

/-- Two digits and the bytes after them. -/
def twoDigits : List UInt8 → Except Fault (Nat × List UInt8)
  | a :: b :: rest => do return (← digits [a, b], rest)
  | _ => .error .tooShort

/-- Two digits of minutes and the bytes after them. -/
def offsetMinutes (bytes : List UInt8) : Except Fault (Nat × List UInt8) := do
  let (minutes, rest) ← twoDigits bytes
  if minutes < 60 then return (minutes, rest) else throw .outOfRange

/-- Hours and minutes after the sign of an offset, in seconds.  How many hours an offset may have is
asked only when nothing follows it. -/
def offsetSize (bytes : List UInt8) : Except Fault (Nat × List UInt8) := do
  let (hours, rest) ← twoDigits bytes
  match rest with
  | [] => throw .tooShort
  | colon :: rest =>
    require [58] colon
    let (minutes, rest) ← offsetMinutes rest
    return (hours * 3600 + minutes * 60, rest)

/-- The offset in seconds and the bytes after it. -/
def offset : List UInt8 → Except Fault (Int × List UInt8)
  | 90 :: rest => .ok (0, rest)
  | 122 :: rest => .ok (0, rest)
  | 43 :: rest => do
    let (size, rest) ← offsetSize rest
    return ((size : Int), rest)
  | 45 :: rest => do
    let (size, rest) ← offsetSize rest
    return (-(size : Int), rest)
  | 0xE2 :: 0x88 :: 0x92 :: rest => do
    let (size, rest) ← offsetSize rest
    return (-(size : Int), rest)
  | [] => .error .tooShort
  | _ => .error .unexpected

/-- The moment that a timestamp denotes. -/
def read : List UInt8 → Except Fault Moment
  | y1 :: y2 :: y3 :: y4 :: d1 :: m1 :: m2 :: d2 :: a1 :: a2 :: t :: h1 :: h2 :: c1 :: n1 :: n2 ::
      c2 :: s1 :: s2 :: rest => do
    let year ← digits [y1, y2, y3, y4]
    require [45] d1
    let month ← digits [m1, m2]
    require [45] d2
    let day ← digits [a1, a2]
    let date : Date := ⟨year, month, day⟩
    if !date.isValid then throw .outOfRange
    require [84, 116, 32] t
    let hour ← digits [h1, h2]
    require [58] c1
    let minute ← digits [n1, n2]
    require [58] c2
    let second ← digits [s1, s2]
    let (nano, rest) ← fraction rest
    let (clockSecond, nano) ← clock hour minute second nano
    let (shift, rest) ← offset rest
    if rest ≠ [] then throw .trailing
    if daySeconds ≤ shift.natAbs then throw .outOfRange
    return ⟨date.toDay * daySeconds + clockSecond - shift, nano⟩
  | _ => .error .tooShort

end TableFeed.Calendar.Zoned
