import TableFeed.Calendar.Date

/-!
# Times of day and moments

A moment is a second counted from 1970-01-01T00:00:00 in UTC and the nanoseconds
after it.  A leap second is a second that lasts twice as long: its nanoseconds
run on to two billion, and the clock then shows 60.

Fractions are written in one of two ways: the fewest of 0, 3, 6 or 9 digits that
are exact, or six digits whatever is cut off.
-/

namespace TableFeed.Calendar

/-- The seconds of a day. -/
def daySeconds : Nat := 86400

/-- The nanoseconds of a second. -/
def secondNanos : Nat := 1000000000

/-- A moment in UTC. -/
structure Moment where
  /-- The second, counted from 1970-01-01T00:00:00. -/
  second : Int
  /-- The nanoseconds after it, a second's worth more within a leap second. -/
  nano : Nat
deriving DecidableEq, Repr

/-- The moment `count` units after 1970-01-01T00:00:00, of which a second has `perSecond`. -/
def Moment.ofUnits (count : Int) (perSecond : Nat) : Moment where
  second := count / perSecond
  nano := (count % perSecond).toNat * (secondNanos / perSecond)

/-- Whether a day has a second, counted from midnight, with nanoseconds after it.  Only the last
second of a minute may be a leap second. -/
def isTimeOfDay (second : Int) (nano : Nat) : Bool :=
  0 ≤ second && second < daySeconds &&
    (nano < secondNanos || (second % 60 = 59 && nano < 2 * secondNanos))

/-! ## Text -/

/-- The clock time `HH:MM:SS` of a second of the day. -/
def clockChars (second nano : Nat) : List Char :=
  Text.fixedDigits 2 (second / 3600) ++ ':' ::
    (Text.fixedDigits 2 (second / 60 % 60) ++ ':' ::
      Text.fixedDigits 2 (second % 60 + nano / secondNanos))

/-- A fraction in the fewest of 0, 3, 6 or 9 digits that are exact. -/
def exactFraction (nano : Nat) : List Char :=
  let part := nano % secondNanos
  if part = 0 then []
  else if part % 1000000 = 0 then '.' :: Text.fixedDigits 3 (part / 1000000)
  else if part % 1000 = 0 then '.' :: Text.fixedDigits 6 (part / 1000)
  else '.' :: Text.fixedDigits 9 part

/-- A fraction in six digits, finer ones cut off. -/
def microFraction (nano : Nat) : List Char :=
  '.' :: Text.fixedDigits 6 (nano % secondNanos / 1000)

/-- The time of day `HH:MM:SS` with its exact fraction. -/
def timeOfDayChars (second nano : Nat) : List Char :=
  clockChars second nano ++ exactFraction nano

/-- The date and time of a moment with a fraction as given; none outside the written dates. -/
def Moment.charsWith? (fraction : Nat → List Char) (m : Moment) : Option (List Char) :=
  (dateOfDay? (m.second / daySeconds)).map fun date =>
    date.chars ++ ' ' :: (clockChars (m.second % daySeconds).toNat m.nano ++ fraction m.nano)

end TableFeed.Calendar
