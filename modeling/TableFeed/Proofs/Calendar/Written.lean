import Mathlib.Algebra.Order.Field.Rat
import Mathlib.Tactic.FieldSimp
import TableFeed.Calendar.Moment
import TableFeed.Proofs.Calendar.Date
import TableFeed.Proofs.Text.Digits

/-!
# Reading written dates and times

`date?` and `dateTime?` read a text in the form `YYYY-MM-DD`, or `YYYY-MM-DD HH:MM:SS` with an
optional fraction.  They take the digits between the marks as they stand, so they tell what a text
says without regard to how it was written.  What a moment is written as is read as the same moment
(`dateTime?_charsWith`).
-/

namespace TableFeed.Calendar

open Text

/-! ## What a text says -/

/-- A time of day with the digits of its fraction. -/
structure Clock where
  /-- The hour. -/
  hour : Nat
  /-- The minute. -/
  minute : Nat
  /-- The second. -/
  second : Nat
  /-- The digits after the point, none without one. -/
  fraction : List Char
deriving DecidableEq

/-- The part of a second that digits after a point write. -/
def fractionValue (digits : List Char) : ℚ :=
  digitsValue digits / 10 ^ digits.length

namespace Clock

/-- Whether a clock shows a time, other than a leap second. -/
def isValid (clock : Clock) : Bool :=
  clock.hour < 24 && clock.minute < 60 && clock.second < 60

/-- The seconds after midnight. -/
def seconds (clock : Clock) : ℚ :=
  clock.hour * 3600 + clock.minute * 60 + clock.second + fractionValue clock.fraction

end Clock

/-- A date and a clock show the moment `seconds` after 1970-01-01T00:00:00. -/
def ShowsMoment (date : Date) (clock : Clock) (seconds : ℚ) : Prop :=
  date.isValid = true ∧ clock.isValid = true ∧
    ∃ day : Int, date.IsDay day ∧ seconds = day * 86400 + clock.seconds

/-- A fraction has the fewest of 0, 3, 6 or 9 digits that are exact. -/
structure IsFewest (digits : List Char) : Prop where
  /-- It has one of these numbers of digits. -/
  length_mem : digits.length ∈ [0, 3, 6, 9]
  /-- It cannot be written with fewer. -/
  length_le : ∀ count ∈ [0, 3, 6, 9], (∃ n : Nat, fractionValue digits = n / 10 ^ count) →
    digits.length ≤ count

/-! ## Reading -/

/-- The number that the digits at the front write, when there are as many as `allowed`. -/
def number? (allowed : Nat → Bool) (cs : List Char) : Option (Nat × List Char) :=
  if allowed (cs.takeWhile Char.isDigit).length then
    some (digitsValue (cs.takeWhile Char.isDigit), cs.dropWhile Char.isDigit)
  else none

/-- The characters after a mark. -/
def mark? (mark : Char) : List Char → Option (List Char)
  | [] => none
  | c :: rest => if c = mark then some rest else none

/-- A year of four digits, or one with a sign and no fewer. -/
def year? : List Char → Option (Int × List Char)
  | [] => none
  | c :: cs =>
    if c = '-' then (number? (4 ≤ ·) cs).map fun (n, rest) => (-(n : Int), rest)
    else if c = '+' then (number? (4 ≤ ·) cs).map fun (n, rest) => ((n : Int), rest)
    else (number? (· = 4) (c :: cs)).map fun (n, rest) => ((n : Int), rest)

/-- A date `YYYY-MM-DD` at the front. -/
def date? (cs : List Char) : Option (Date × List Char) := do
  let (year, cs) ← year? cs
  let (month, cs) ← number? (· = 2) (← mark? '-' cs)
  let (day, cs) ← number? (· = 2) (← mark? '-' cs)
  return (⟨year, month, day⟩, cs)

/-- The digits of a fraction that is the whole text, if one is written. -/
def fraction? : List Char → Option (List Char)
  | [] => some []
  | c :: digits =>
    if c = '.' ∧ digits ≠ [] ∧ digits.all Char.isDigit = true then some digits else none

/-- A time of day `HH:MM:SS` with an optional fraction that is the whole text. -/
def clock? (cs : List Char) : Option Clock := do
  let (hour, cs) ← number? (· = 2) cs
  let (minute, cs) ← number? (· = 2) (← mark? ':' cs)
  let (second, cs) ← number? (· = 2) (← mark? ':' cs)
  return ⟨hour, minute, second, ← fraction? cs⟩

/-- A date and a time of day that are the whole text. -/
def dateTime? (cs : List Char) : Option (Date × Clock) := do
  let (date, cs) ← date? cs
  return (date, ← clock? (← mark? ' ' cs))

/-! ## Numbers and marks -/

theorem number?_append {allowed : Nat → Bool} {digits rest : List Char}
    (hdigits : digits.all Char.isDigit = true) (hallowed : allowed digits.length = true)
    (hrest : rest.head?.all (fun c => !c.isDigit) = true) :
    number? allowed (digits ++ rest) = some (digitsValue digits, rest) := by
  have hspan := Decimal.span_isDigit_append (List.all_eq_true.1 hdigits) hrest
  rw [List.span_eq_takeWhile_dropWhile, Prod.mk.injEq] at hspan
  rw [number?, hspan.1, hspan.2, if_pos hallowed]

theorem number?_fixedDigits {width n : Nat} (hwidth : 0 < width) (hn : n < tenTo width)
    {rest : List Char} (hrest : rest.head?.all (fun c => !c.isDigit) = true) :
    number? (· = width) (fixedDigits width n ++ rest) = some (n, rest) := by
  have hlength := length_fixedDigits hwidth hn
  rw [number?_append (all_isDigit_fixedDigits width n) (by simpa using hlength) hrest,
    digitsValue_fixedDigits]

@[simp] theorem mark?_cons (mark : Char) (rest : List Char) :
    mark? mark (mark :: rest) = some rest :=
  if_pos rfl

/-! ## Dates -/

theorem year?_yearChars (year : Int) {rest : List Char}
    (hrest : rest.head?.all (fun c => !c.isDigit) = true) :
    year? (Date.yearChars year ++ rest) = some (year, rest) := by
  by_cases hplain : 0 ≤ year ∧ year ≤ 9999
  · have hlt : year.toNat < tenTo 4 := by
      change year.toNat < 10000
      omega
    have hread := number?_fixedDigits (by decide) hlt hrest
    have hdigits := all_isDigit_fixedDigits 4 year.toNat
    obtain ⟨c, others, hcons⟩ :=
      List.exists_cons_of_ne_nil (fixedDigits_ne_nil 4 year.toNat)
    rw [hcons] at hread hdigits
    -- The first digit is no sign.
    have hc : c.isDigit = true := List.all_eq_true.1 hdigits c List.mem_cons_self
    have hminus : c ≠ '-' := fun heq => by simp [heq] at hc
    have hplus : c ≠ '+' := fun heq => by simp [heq] at hc
    rw [Date.yearChars, if_pos hplain, hcons, List.cons_append, year?, if_neg hminus, if_neg hplus,
      ← List.cons_append, hread]
    exact congrArg (fun value => some (value, rest)) (Int.toNat_of_nonneg hplain.1)
  · have hfour : 4 ≤ (fixedDigits 4 year.natAbs).length := by
      rw [fixedDigits, Decimal.length_padZeros]
      exact Nat.le_max_left _ _
    have hread : number? (4 ≤ ·) (fixedDigits 4 year.natAbs ++ rest) = some (_, rest) :=
      number?_append (all_isDigit_fixedDigits 4 year.natAbs) (decide_eq_true hfour) hrest
    rw [digitsValue_fixedDigits] at hread
    rw [Date.yearChars, if_neg hplain]
    by_cases hneg : year < 0
    · have hvalue : -(year.natAbs : Int) = year := by omega
      rw [if_pos hneg, List.cons_append, year?, if_pos rfl, hread]
      exact congrArg (fun value => some (value, rest)) hvalue
    · have hvalue : (year.natAbs : Int) = year := by omega
      rw [if_neg hneg, List.cons_append, year?, if_neg (by decide), if_pos rfl, hread]
      exact congrArg (fun value => some (value, rest)) hvalue

theorem date?_chars {date : Date} (h : date.isValid = true) {rest : List Char}
    (hrest : rest.head?.all (fun c => !c.isDigit) = true) :
    date? (date.chars ++ rest) = some (date, rest) := by
  obtain ⟨hmonth, hday⟩ := Date.lt_of_isValid h
  have hmonth' : date.month < tenTo 2 := hmonth.trans (by decide)
  have hday' : date.day < tenTo 2 := hday.trans (by decide)
  have hdays := number?_fixedDigits (by decide) hday' hrest
  have hmonths := number?_fixedDigits (by decide) hmonth'
    (show ('-' :: (fixedDigits 2 date.day ++ rest)).head?.all (fun c => !c.isDigit) = true from rfl)
  have hyear := year?_yearChars date.year (show ('-' :: (fixedDigits 2 date.month ++
    '-' :: (fixedDigits 2 date.day ++ rest))).head?.all (fun c => !c.isDigit) = true from rfl)
  simp only [Date.chars, date?, List.append_assoc, List.cons_append, hyear, hmonths, hdays,
    mark?_cons, Option.bind_eq_bind, Option.bind_some]
  rfl

/-! ## Times of day -/

theorem clock?_clockChars {second nano : Nat} (hsecond : second < daySeconds)
    (hnano : nano < secondNanos) {tail digits : List Char} (htail : fraction? tail = some digits) :
    clock? (clockChars second nano ++ tail) =
      some ⟨second / 3600, second / 60 % 60, second % 60, digits⟩ := by
  have hhead : tail.head?.all (fun c => !c.isDigit) = true := by
    cases tail with
    | nil => rfl
    | cons c rest =>
      rw [fraction?] at htail
      split at htail
      · next hpoint =>
        rw [hpoint.1]
        rfl
      · cases htail
  rw [daySeconds] at hsecond
  have hnone : nano / secondNanos = 0 := Nat.div_eq_of_lt hnano
  have hlt {n : Nat} (hn : n < 60) : n < tenTo 2 := Nat.lt_of_lt_of_le hn (by decide)
  have hseconds := number?_fixedDigits (by decide) (hlt (show second % 60 < 60 by omega)) hhead
  have hminutes := number?_fixedDigits (by decide) (hlt (show second / 60 % 60 < 60 by omega))
    (show (':' :: (fixedDigits 2 (second % 60) ++ tail)).head?.all (fun c => !c.isDigit) = true
      from rfl)
  have hhours := number?_fixedDigits (by decide) (hlt (show second / 3600 < 60 by omega))
    (show (':' :: (fixedDigits 2 (second / 60 % 60) ++ ':' :: (fixedDigits 2 (second % 60) ++
      tail))).head?.all (fun c => !c.isDigit) = true from rfl)
  simp only [clockChars, clock?, hnone, Nat.add_zero, List.append_assoc, List.cons_append, hhours,
    hminutes, hseconds, htail, mark?_cons, Option.bind_eq_bind, Option.bind_some]
  rfl

/-! ## Fractions -/

theorem fraction?_point (width n : Nat) :
    fraction? ('.' :: fixedDigits width n) = some (fixedDigits width n) :=
  if_pos ⟨rfl, fixedDigits_ne_nil width n, all_isDigit_fixedDigits width n⟩

theorem fractionValue_fixedDigits {width n : Nat} (hwidth : 0 < width) (hn : n < tenTo width) :
    fractionValue (fixedDigits width n) = n / 10 ^ width := by
  rw [fractionValue, digitsValue_fixedDigits, length_fixedDigits hwidth hn]

theorem isFewest_nil : IsFewest [] where
  length_mem := List.mem_cons_self
  length_le _ _ _ := Nat.zero_le _

/-- A fraction of 3, 6 or 9 digits is needed when the last three of them are not all zero. -/
theorem isFewest_fixedDigits {width n : Nat} (hwidth : width ∈ [3, 6, 9]) (hn : n < tenTo width)
    (hlast : n % 1000 ≠ 0) : IsFewest (fixedDigits width n) := by
  have hpos : 0 < width := by
    simp only [List.mem_cons, List.not_mem_nil, or_false] at hwidth
    omega
  have hlength := length_fixedDigits hpos hn
  constructor
  · rw [hlength]
    exact List.mem_cons_of_mem _ hwidth
  · rintro count hcount ⟨shorter, hshorter⟩
    rw [hlength]
    by_contra hlt
    have hsteps : 3 ≤ width - count := by
      simp only [List.mem_cons, List.not_mem_nil, or_false] at hwidth hcount
      omega
    have hdrop : width = count + (width - count - 3) + 3 := by omega
    -- A fraction with fewer digits would leave three zeros at the end of this one.
    have hmultiple : n = shorter * 10 ^ (width - count - 3) * 1000 := by
      rw [fractionValue_fixedDigits hpos hn, div_eq_div_iff (by positivity) (by positivity)]
        at hshorter
      have hexact : (n : ℚ) * 10 ^ count =
          (shorter * 10 ^ (width - count - 3) * 1000 : ℚ) * 10 ^ count := by
        rw [hshorter]
        nth_rewrite 1 [hdrop]
        ring
      have hcancel := mul_right_cancel₀ (show (10 : ℚ) ^ count ≠ 0 by positivity) hexact
      exact_mod_cast hcancel
    omega

/-- The exact fraction is written with the fewest digits. -/
theorem exists_exactFraction {nano : Nat} (h : nano < secondNanos) :
    ∃ digits, fraction? (exactFraction nano) = some digits ∧
      fractionValue digits = nano / 10 ^ 9 ∧ IsFewest digits := by
  rw [secondNanos] at h
  have hpart : nano % secondNanos = nano := Nat.mod_eq_of_lt h
  simp only [exactFraction, hpart]
  split_ifs with hzero hmillis hmicros
  · exact ⟨[], rfl, by simp [fractionValue, digitsValue, hzero], isFewest_nil⟩
  · have hlt : nano / 1000000 < tenTo 3 := by
      change nano / 1000000 < 1000
      omega
    refine ⟨_, fraction?_point _ _, ?_,
      isFewest_fixedDigits (by decide) hlt (by omega)⟩
    have hexact : (nano : ℚ) = (nano / 1000000 : Nat) * 1000000 := by
      exact_mod_cast (show nano = nano / 1000000 * 1000000 by omega)
    rw [fractionValue_fixedDigits (by decide) hlt, hexact]
    ring
  · have hlt : nano / 1000 < tenTo 6 := by
      change nano / 1000 < 1000000
      omega
    refine ⟨_, fraction?_point _ _, ?_,
      isFewest_fixedDigits (by decide) hlt (by omega)⟩
    have hexact : (nano : ℚ) = (nano / 1000 : Nat) * 1000 := by
      exact_mod_cast (show nano = nano / 1000 * 1000 by omega)
    rw [fractionValue_fixedDigits (by decide) hlt, hexact]
    ring
  · have hlt : nano < tenTo 9 := h
    refine ⟨_, fraction?_point _ _, ?_,
      isFewest_fixedDigits (by decide) hlt hmicros⟩
    rw [fractionValue_fixedDigits (by decide) hlt]

/-! ## Moments -/

/-- A moment is written just when it is in the days that have a written date. -/
theorem isSome_charsWith_iff {fraction : Nat → List Char} {m : Moment} :
    (m.charsWith? fraction).isSome = true ↔
      firstDay * daySeconds ≤ m.second ∧ m.second < (lastDay + 1) * daySeconds := by
  have hfirst : firstDay = -96465292 := by decide
  have hlast : lastDay = 95026236 := by decide
  rw [Moment.charsWith?, Option.isSome_map, isSome_dateOfDay?_iff, hfirst, hlast, daySeconds]
  omega

/-- What a moment is written as shows the moment. -/
theorem dateTime?_charsWith {m : Moment} {fraction : Nat → List Char} {digits cs : List Char}
    (hnano : m.nano < secondNanos) (hfraction : fraction? (fraction m.nano) = some digits)
    (h : m.charsWith? fraction = some cs) :
    ∃ date clock, dateTime? cs = some (date, clock) ∧ clock.fraction = digits ∧
      ShowsMoment date clock (m.second + fractionValue digits) := by
  obtain ⟨date, hdate, rfl⟩ := Option.map_eq_some_iff.1 h
  obtain ⟨-, rfl⟩ := dateOfDay?_eq_some_iff.1 hdate
  generalize hsecond : (m.second % daySeconds).toNat = second
  have hlt : second < daySeconds := by
    rw [← hsecond, daySeconds]
    omega
  have hread := date?_chars (Date.isValid_ofDay (m.second / daySeconds))
    (show (' ' :: (clockChars second m.nano ++ fraction m.nano)).head?.all
      (fun c => !c.isDigit) = true from rfl)
  have hclock := clock?_clockChars hlt hnano hfraction
  rw [daySeconds] at hlt
  refine ⟨.ofDay (m.second / daySeconds),
    ⟨second / 3600, second / 60 % 60, second % 60, digits⟩, ?_, rfl,
    Date.isValid_ofDay _, ?_, m.second / daySeconds, Date.isDay_ofDay _, ?_⟩
  · simp only [dateTime?, hread, hclock, mark?_cons, Option.bind_eq_bind, Option.bind_some]
    rfl
  · simp only [Clock.isValid, Bool.and_eq_true, decide_eq_true_eq]
    omega
  · have hsplit : m.second = m.second / daySeconds * 86400 +
        ((second / 3600 * 3600 + second / 60 % 60 * 60 + second % 60 : Nat) : Int) := by
      rw [daySeconds] at hsecond ⊢
      omega
    generalize second / 3600 = hour, second / 60 % 60 = minute, second % 60 = rest at hsplit ⊢
    have hexact := congrArg (fun n : Int => (n : ℚ)) hsplit
    push_cast at hexact
    rw [hexact, Clock.seconds]
    ring

end TableFeed.Calendar
