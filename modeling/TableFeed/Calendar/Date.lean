import TableFeed.Text.Digits

/-!
# Dates of the Gregorian calendar

Days are counted from 1970-01-01, negative before it, in the Gregorian calendar
extended without bound in both directions.  `Date.ofDay` gives the date of a day
and `Date.toDay` counts back.  Both cut time into spans of 400 years, which all
have the same 146097 days, and let years begin in March so that the day a leap
year adds comes last.

`firstDay` and `lastDay` bound the dates that this library writes.
-/

namespace TableFeed.Calendar

/-- A date of the Gregorian calendar. -/
structure Date where
  /-- The year, with a year zero and negative years before it. -/
  year : Int
  /-- The month from 1 to 12. -/
  month : Nat
  /-- The day of the month from 1. -/
  day : Nat
deriving DecidableEq, Repr

/-- Whether a year has 366 days. -/
def isLeapYear (year : Int) : Bool :=
  year % 4 = 0 && (year % 100 ≠ 0 || year % 400 = 0)

/-- The number of days of a month. -/
def monthLength (year : Int) (month : Nat) : Nat :=
  if month = 2 then (if isLeapYear year then 29 else 28)
  else if month = 4 ∨ month = 6 ∨ month = 9 ∨ month = 11 then 30
  else 31

namespace Date

/-- Whether a date is in the calendar. -/
def isValid (date : Date) : Bool :=
  1 ≤ date.month && date.month ≤ 12 && 1 ≤ date.day &&
    date.day ≤ monthLength date.year date.month

/-- The days from 0000-03-01 to 1970-01-01. -/
def epochShift : Int := 719468

/-- The days of 400 years. -/
def spanDays : Int := 146097

/-- The date of a day counted from 1970-01-01. -/
def ofDay (day : Int) : Date :=
  let shifted := day + epochShift
  let span := shifted / spanDays
  let dayOfSpan := (shifted % spanDays).toNat
  let yearOfSpan := (dayOfSpan - dayOfSpan / 1460 + dayOfSpan / 36524 - dayOfSpan / 146096) / 365
  let dayOfYear := dayOfSpan - (365 * yearOfSpan + yearOfSpan / 4 - yearOfSpan / 100)
  let monthFromMarch := (5 * dayOfYear + 2) / 153
  let month := if monthFromMarch < 10 then monthFromMarch + 3 else monthFromMarch - 9
  { year := span * 400 + (yearOfSpan : Int) + (if month ≤ 2 then 1 else 0)
    month := month
    day := dayOfYear - (153 * monthFromMarch + 2) / 5 + 1 }

/-- The day of a date, counted from 1970-01-01. -/
def toDay (date : Date) : Int :=
  let marchYear := if date.month ≤ 2 then date.year - 1 else date.year
  let span := marchYear / 400
  let yearOfSpan := marchYear % 400
  let monthFromMarch : Int := if date.month ≤ 2 then date.month + 9 else date.month - 3
  let dayOfYear := (153 * monthFromMarch + 2) / 5 + date.day - 1
  span * spanDays + (yearOfSpan * 365 + yearOfSpan / 4 - yearOfSpan / 100) + dayOfYear - epochShift

/-- The year: four digits from 0 to 9999, outside them with a sign. -/
def yearChars (year : Int) : List Char :=
  if 0 ≤ year ∧ year ≤ 9999 then Text.fixedDigits 4 year.toNat
  else (if year < 0 then '-' else '+') :: Text.fixedDigits 4 year.natAbs

/-- The text `YYYY-MM-DD` of a date. -/
def chars (date : Date) : List Char :=
  yearChars date.year
    ++ '-' :: (Text.fixedDigits 2 date.month ++ '-' :: Text.fixedDigits 2 date.day)

end Date

/-- The first day with a written date, -262143-01-01. -/
def firstDay : Int := Date.toDay ⟨-262143, 1, 1⟩

/-- The last day with a written date, +262142-12-31. -/
def lastDay : Int := Date.toDay ⟨262142, 12, 31⟩

/-- The date of a day, when it is in the range that is written. -/
def dateOfDay? (day : Int) : Option Date :=
  if firstDay ≤ day ∧ day ≤ lastDay then some (Date.ofDay day) else none

end TableFeed.Calendar
