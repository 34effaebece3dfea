import Mathlib.Logic.Function.Iterate
import TableFeed.Calendar.Date

/-!
# Days and dates

The calendar is given by one rule, the date after a date (`Date.next`).  The day of a date is the
number of these steps from 1970-01-01 (`Date.IsDay`), negative before it.

`Date.ofDay` and `Date.toDay` keep to it: the date of a day is one of the calendar, it is as many
steps away as the day tells (`Date.isDay_ofDay`), and no other day has it (`Date.isDay_iff`).  Both
work in years that begin in March and in spans of 400 of them.  `Date.ofMarch` is the date of a day
in such a year, and it is what the proofs follow: every date is one, and the next date is that of
the next day of the year, of the next year or of the next span.
-/

namespace TableFeed.Calendar

namespace Date

/-- The date after a date. -/
def next (date : Date) : Date :=
  if date.day < monthLength date.year date.month then { date with day := date.day + 1 }
  else if date.month < 12 then ⟨date.year, date.month + 1, 1⟩
  else ⟨date.year + 1, 1, 1⟩

/-- The date that days are counted from. -/
def epoch : Date := ⟨1970, 1, 1⟩

/-- A date is `day` days after 1970-01-01, or when that is negative, as many before it. -/
def IsDay (date : Date) (day : Int) : Prop :=
  next^[day.toNat] epoch = next^[(-day).toNat] date

/-! ## Years that begin in March -/

/-- The days of a span of 400 years before one of them. -/
def yearStart (year : Nat) : Nat :=
  365 * year + year / 4 - year / 100 + year / 400

/-- The days of a year of a span. -/
def yearLength (year : Nat) : Nat :=
  yearStart (year + 1) - yearStart year

/-- The month of a day of a year. -/
def monthOf (day : Nat) : Nat :=
  if (5 * day + 2) / 153 < 10 then (5 * day + 2) / 153 + 3 else (5 * day + 2) / 153 - 9

/-- The day of the month of a day of a year. -/
def dayOf (day : Nat) : Nat :=
  day - (153 * ((5 * day + 2) / 153) + 2) / 5 + 1

/-- The date of a day of a year of a span. -/
def ofMarch (span : Int) (year day : Nat) : Date where
  year := span * 400 + year + if monthOf day ≤ 2 then 1 else 0
  month := monthOf day
  day := dayOf day

/-- The same day counted from 1970-01-01. -/
def dayOfMarch (span : Int) (year day : Nat) : Int :=
  span * spanDays + yearStart year + day - epochShift

/-- The year of a span that a day of it is in, as `ofDay` computes it. -/
def yearOfSpan (day : Nat) : Nat :=
  (day - day / 1460 + day / 36524 - day / 146096) / 365

theorem yearOfSpan_mono {day later : Nat} (h : day ≤ later) :
    yearOfSpan day ≤ yearOfSpan later := by
  induction h with
  | refl => exact Nat.le_refl _
  | @step later _ ih =>
    refine Nat.le_trans ih (Nat.div_le_div_right ?_)
    have hquarter (n : Nat) : n / 146096 = n / 36524 / 4 := by rw [Nat.div_div_eq_div_mul]
    rw [hquarter, hquarter]
    omega

theorem yearOfSpan_yearStart : ∀ year < 400, yearOfSpan (yearStart year) = year ∧
    yearOfSpan (yearStart (year + 1) - 1) = year := by
  decide +kernel

theorem yearStart_lt (year : Nat) : yearStart year < yearStart (year + 1) := by
  rw [yearStart, yearStart]
  omega

theorem exists_year {count day : Nat} (hcount : count ≤ 400) (h : day < yearStart count) :
    ∃ year < count, yearStart year ≤ day ∧ day < yearStart (year + 1) := by
  induction count with
  | zero => exact absurd h (Nat.not_lt_zero _)
  | succ count ih =>
    by_cases hday : day < yearStart count
    · obtain ⟨year, hyear, hstart⟩ := ih (by omega) hday
      exact ⟨year, by omega, hstart⟩
    · exact ⟨count, by omega, Nat.not_lt.1 hday, h⟩

theorem yearOfSpan_eq {year day : Nat} (hyear : year < 400) (hday : day < yearLength year) :
    yearOfSpan (yearStart year + day) = year := by
  obtain ⟨hfirst, hlast⟩ := yearOfSpan_yearStart year hyear
  rw [yearLength] at hday
  have hlow := yearOfSpan_mono (show yearStart year ≤ yearStart year + day by omega)
  have hhigh := yearOfSpan_mono
    (show yearStart year + day ≤ yearStart (year + 1) - 1 by omega)
  omega

/-- Every day is one of a year of a span. -/
theorem exists_dayOfMarch (day : Int) : ∃ span year dayOfYear, year < 400 ∧
    dayOfYear < yearLength year ∧ day = dayOfMarch span year dayOfYear := by
  have hspan : yearStart 400 = 146097 := rfl
  have hlow : 0 ≤ (day + epochShift) % spanDays := Int.emod_nonneg _ (by decide)
  have hhigh : (day + epochShift) % spanDays < spanDays := Int.emod_lt_of_pos _ (by decide)
  have hsplit := Int.mul_ediv_add_emod (day + epochShift) spanDays
  rw [spanDays] at hlow hhigh hsplit
  obtain ⟨year, hyear, hstart, hend⟩ := exists_year (Nat.le_refl 400)
    (show ((day + epochShift) % 146097).toNat < yearStart 400 by omega)
  refine ⟨(day + epochShift) / 146097, year,
    ((day + epochShift) % 146097).toNat - yearStart year, hyear, ?_, ?_⟩
  · rw [yearLength]
    omega
  · rw [dayOfMarch, spanDays]
    omega

theorem yearStart_add_lt {year day : Nat} (hyear : year < 400) (hday : day < yearLength year) :
    yearStart year + day < 146097 := by
  rw [yearLength, yearStart, yearStart] at hday
  rw [yearStart]
  omega

theorem ofDay_dayOfMarch {span : Int} {year day : Nat} (hyear : year < 400)
    (hday : day < yearLength year) : ofDay (dayOfMarch span year day) = ofMarch span year day := by
  have hlt := yearStart_add_lt hyear hday
  have hshifted : dayOfMarch span year day + epochShift =
      span * spanDays + (yearStart year + day : Nat) := by
    rw [dayOfMarch]
    omega
  have hspan : (dayOfMarch span year day + epochShift) / spanDays = span := by
    rw [hshifted, spanDays]
    omega
  have hdayOfSpan : ((dayOfMarch span year day + epochShift) % spanDays).toNat =
      yearStart year + day := by
    rw [hshifted, spanDays]
    omega
  have hofDay : ofDay (dayOfMarch span year day) =
      ofMarch ((dayOfMarch span year day + epochShift) / spanDays)
        (yearOfSpan ((dayOfMarch span year day + epochShift) % spanDays).toNat)
        (((dayOfMarch span year day + epochShift) % spanDays).toNat -
          (365 * yearOfSpan ((dayOfMarch span year day + epochShift) % spanDays).toNat +
            yearOfSpan ((dayOfMarch span year day + epochShift) % spanDays).toNat / 4 -
            yearOfSpan ((dayOfMarch span year day + epochShift) % spanDays).toNat / 100)) := rfl
  have hdayOfYear : yearStart year + day - (365 * year + year / 4 - year / 100) = day := by
    rw [yearStart]
    omega
  rw [hofDay, hspan, hdayOfSpan, yearOfSpan_eq hyear hday, hdayOfYear]

/-! ## Months -/

theorem yearLength_eq {year : Nat} (h : year < 400) :
    yearLength year = if isLeapYear ((year : Int) + 1) then 366 else 365 := by
  rw [yearLength, yearStart, yearStart]
  simp only [isLeapYear, Bool.and_eq_true, Bool.or_eq_true, decide_eq_true_eq]
  split <;> omega

theorem yearLength_le {year : Nat} (h : year < 400) : yearLength year ≤ 366 := by
  rw [yearLength_eq h]
  split
  · exact Nat.le_refl _
  · decide

/-- Leap years come again after 400 years. -/
theorem isLeapYear_span (span year : Int) : isLeapYear (span * 400 + year) = isLeapYear year := by
  have h4 : (span * 400 + year) % 4 = year % 4 := by omega
  have h100 : (span * 400 + year) % 100 = year % 100 := by omega
  have h400 : (span * 400 + year) % 400 = year % 400 := by omega
  rw [isLeapYear, isLeapYear, h4, h100, h400]

theorem monthFromMarch_le {day : Nat} (h : day < 366) : (5 * day + 2) / 153 ≤ 11 ∧
    (153 * ((5 * day + 2) / 153) + 2) / 5 ≤ day := by
  omega

theorem toDay_ofMarch {span : Int} {year day : Nat} (hyear : year < 400) (hday : day < 366) :
    (ofMarch span year day).toDay = dayOfMarch span year day := by
  obtain ⟨hmonth, hfirst⟩ := monthFromMarch_le hday
  have hmarch : (if (ofMarch span year day).month ≤ 2 then (ofMarch span year day).year - 1
      else (ofMarch span year day).year) = span * 400 + year := by
    dsimp only [ofMarch]
    split <;> omega
  have hfrom : (if (ofMarch span year day).month ≤ 2 then ((ofMarch span year day).month : Int) + 9
      else (ofMarch span year day).month - 3) = ((5 * day + 2) / 153 : Nat) := by
    dsimp only [ofMarch, monthOf]
    split <;> split <;> omega
  have hdayOf : ((ofMarch span year day).day : Int) =
      day - ((153 * ((5 * day + 2) / 153) + 2) / 5 : Nat) + 1 := by
    dsimp only [ofMarch, dayOf]
    omega
  simp only [toDay, hmarch, hfrom, hdayOf, dayOfMarch, yearStart, spanDays]
  omega

theorem toDay_ofDay (day : Int) : (ofDay day).toDay = day := by
  obtain ⟨span, year, dayOfYear, hyear, hday, rfl⟩ := exists_dayOfMarch day
  have hlength := yearLength_le hyear
  rw [ofDay_dayOfMarch hyear hday, toDay_ofMarch hyear (by omega)]

/-! ## The next date -/

/-- Only February has another length in another year. -/
theorem monthLength_eq_of_ne {year other : Int} {month : Nat} (h : month ≠ 2) :
    monthLength year month = monthLength other month := by
  rw [monthLength, monthLength, if_neg h, if_neg h]

theorem monthLength_le (year : Int) (month : Nat) :
    monthLength year month ≤ monthLength 0 month := by
  by_cases hmonth : month = 2
  · have hleap : monthLength 0 2 = 29 := rfl
    rw [hmonth, hleap, monthLength, if_pos rfl]
    split <;> decide
  · exact Nat.le_of_eq (monthLength_eq_of_ne hmonth)

theorem monthLength_february (year : Int) :
    monthLength year 2 = if isLeapYear year then 29 else 28 :=
  if_pos rfl

/-- February comes last in a year that begins in March, and takes up its days from the 337th on. -/
theorem monthOf_eq_two_iff {day : Nat} (h : day < 366) : monthOf day = 2 ↔ 337 ≤ day := by
  rw [monthOf]
  split <;> omega

theorem dayOf_february {day : Nat} (h : day < 366) (hfebruary : 337 ≤ day) :
    dayOf day = day - 336 := by
  have hmonth : (5 * day + 2) / 153 = 11 := by omega
  rw [dayOf, hmonth]
  omega

/-- The days of a year follow each other month by month, as in the leap year zero. -/
theorem next_dayOf : ∀ day < 365,
    (dayOf day < monthLength 0 (monthOf day) ∧ monthOf (day + 1) = monthOf day ∧
      dayOf (day + 1) = dayOf day + 1) ∨
    (monthLength 0 (monthOf day) ≤ dayOf day ∧ dayOf (day + 1) = 1 ∧ monthOf day ≠ 2 ∧
      monthOf (day + 1) = if monthOf day < 12 then monthOf day + 1 else 1) := by
  decide +kernel

theorem isValid_dayOf : ∀ day < 366, 1 ≤ monthOf day ∧ monthOf day ≤ 12 ∧ 1 ≤ dayOf day ∧
    dayOf day ≤ monthLength 0 (monthOf day) := by
  decide +kernel

/-- The length of the month of a day is that of the leap year zero, except for a February of 28
days. -/
theorem monthLength_ofMarch {span : Int} {year day : Nat} (hyear : year < 400) (hday : day < 366) :
    monthLength (ofMarch span year day).year (monthOf day) =
      if 337 ≤ day then yearLength year - 337 else monthLength 0 (monthOf day) := by
  have hfebruary := monthOf_eq_two_iff hday
  by_cases hmonth : 337 ≤ day
  · have htwo := hfebruary.2 hmonth
    have hcalendar : (ofMarch span year day).year = span * 400 + ((year : Int) + 1) := by
      dsimp only [ofMarch]
      rw [htwo, if_pos (Nat.le_refl 2)]
      omega
    rw [if_pos hmonth, htwo, monthLength_february, hcalendar, isLeapYear_span,
      yearLength_eq hyear]
    split
    · rfl
    · rfl
  · rw [if_neg hmonth]
    exact monthLength_eq_of_ne fun htwo => hmonth (hfebruary.1 htwo)

theorem isValid_iff {date : Date} : date.isValid = true ↔ 1 ≤ date.month ∧ date.month ≤ 12 ∧
    1 ≤ date.day ∧ date.day ≤ monthLength date.year date.month := by
  simp [isValid, and_assoc]

theorem isValid_ofMarch {span : Int} {year day : Nat} (hyear : year < 400)
    (hday : day < yearLength year) : (ofMarch span year day).isValid = true := by
  have hlength := yearLength_le hyear
  obtain ⟨hmonth, hmonths, hfirst, hlast⟩ := isValid_dayOf day (by omega)
  refine isValid_iff.2 ⟨hmonth, hmonths, hfirst, ?_⟩
  change dayOf day ≤ monthLength (ofMarch span year day).year (monthOf day)
  rw [monthLength_ofMarch hyear (by omega)]
  split
  · next hfebruary =>
    rw [dayOf_february (by omega) hfebruary]
    omega
  · exact hlast

theorem le_yearLength {year : Nat} (h : year < 400) : 365 ≤ yearLength year := by
  rw [yearLength_eq h]
  split
  · decide
  · exact Nat.le_refl _

/-- Before February the next date is that of the next day of the year. -/
theorem next_ofMarch_of_lt {span : Int} {year day : Nat} (hyear : year < 400) (hday : day < 337) :
    (ofMarch span year day).next = ofMarch span year (day + 1) := by
  have hlength : monthLength (ofMarch span year day).year (monthOf day) =
      monthLength 0 (monthOf day) := by
    rw [monthLength_ofMarch hyear (by omega), if_neg (Nat.not_le.2 hday)]
  obtain ⟨hpositive, hmonths, -⟩ := isValid_dayOf day (by omega)
  rw [next]
  change (if dayOf day < monthLength (ofMarch span year day).year (monthOf day) then _ else _) = _
  rw [hlength]
  rcases next_dayOf day (by omega) with ⟨hlt, hmonth, hnext⟩ | ⟨hle, hnext, hne, hmonth⟩
  · rw [if_pos hlt]
    simp only [ofMarch, hmonth, hnext]
  · rw [if_neg (Nat.not_lt.2 hle)]
    simp only [ofMarch, hmonth, hnext]
    split
    · next hlt =>
      have hsame : monthOf day + 1 ≤ 2 ↔ monthOf day ≤ 2 := by omega
      simp only [hsame]
      exact if_pos hlt
    · next hlast =>
      have hwinter : ¬ monthOf day ≤ 2 := by omega
      simp [hwinter, hlast]

/-- In February the next date is that of the next day, or the first of March. -/
theorem next_ofMarch_of_le {span : Int} {year day : Nat} (hyear : year < 400) (hday : day < 366)
    (hfebruary : 337 ≤ day) : (ofMarch span year day).next =
      if day + 1 < yearLength year then ofMarch span year (day + 1)
      else ⟨span * 400 + year + 1, 3, 1⟩ := by
  have hlength :
      monthLength (ofMarch span year day).year (monthOf day) = yearLength year - 337 := by
    rw [monthLength_ofMarch hyear hday, if_pos hfebruary]
  have hmonth := (monthOf_eq_two_iff hday).2 hfebruary
  have hdayOf := dayOf_february hday hfebruary
  have hlast : dayOf day < yearLength year - 337 ↔ day + 1 < yearLength year := by omega
  rw [next]
  change (if dayOf day < monthLength (ofMarch span year day).year (monthOf day) then _ else _) = _
  simp only [hlength, hlast]
  by_cases hsame : day + 1 < yearLength year
  · have hbound := yearLength_le hyear
    have hnextMonth := (@monthOf_eq_two_iff (day + 1) (by omega)).2 (by omega)
    have hnextDay := @dayOf_february (day + 1) (by omega) (by omega)
    rw [if_pos hsame, if_pos hsame]
    simp only [ofMarch, hmonth, hnextMonth, hdayOf, hnextDay, Date.mk.injEq, true_and]
    omega
  · rw [if_neg hsame, if_neg hsame]
    simp only [ofMarch, hmonth]
    rfl

/-- The day after the last one of a year is the first of March. -/
theorem ofDay_dayOfMarch_yearLength {span : Int} {year : Nat} (hyear : year < 400) :
    ofDay (dayOfMarch span year (yearLength year)) = ⟨span * 400 + year + 1, 3, 1⟩ := by
  have hstart := yearStart_lt year
  have hpositive : ∀ year < 400, 0 < yearLength year := fun year hyear =>
    Nat.lt_of_lt_of_le (by decide) (le_yearLength hyear)
  by_cases hlast : year = 399
  · -- The span is over, and the next one begins.
    have hday : dayOfMarch span year (yearLength year) = dayOfMarch (span + 1) 0 0 := by
      subst hlast
      have hlength : yearLength 399 = 366 := rfl
      have hbefore : yearStart 399 = 145731 := rfl
      have hzero : yearStart 0 = 0 := rfl
      rw [dayOfMarch, dayOfMarch, hlength, hbefore, hzero, spanDays]
      omega
    rw [hday, ofDay_dayOfMarch (by decide) (hpositive 0 (by decide))]
    have hmarch : monthOf 0 = 3 ∧ dayOf 0 = 1 := by decide
    simp only [ofMarch, hmarch, Date.mk.injEq, and_true]
    omega
  · have hday : dayOfMarch span year (yearLength year) = dayOfMarch span (year + 1) 0 := by
      rw [dayOfMarch, dayOfMarch, yearLength]
      omega
    rw [hday, ofDay_dayOfMarch (by omega) (hpositive _ (by omega))]
    have hmarch : monthOf 0 = 3 ∧ dayOf 0 = 1 := by decide
    simp only [ofMarch, hmarch, Date.mk.injEq, and_true]
    omega

theorem next_ofDay (day : Int) : (ofDay day).next = ofDay (day + 1) := by
  obtain ⟨span, year, dayOfYear, hyear, hday, rfl⟩ := exists_dayOfMarch day
  have hbound := yearLength_le hyear
  have hlower := le_yearLength hyear
  have hstep : dayOfMarch span year dayOfYear + 1 = dayOfMarch span year (dayOfYear + 1) := by
    rw [dayOfMarch, dayOfMarch]
    omega
  rw [ofDay_dayOfMarch hyear hday, hstep]
  by_cases hfebruary : 337 ≤ dayOfYear
  · rw [next_ofMarch_of_le hyear (by omega) hfebruary]
    split
    · next hsame => rw [ofDay_dayOfMarch hyear hsame]
    · next hlast =>
      have hlength : dayOfYear + 1 = yearLength year := by omega
      rw [hlength, ofDay_dayOfMarch_yearLength hyear]
  · rw [next_ofMarch_of_lt hyear (by omega), ofDay_dayOfMarch hyear (by omega)]

theorem isValid_ofDay (day : Int) : (ofDay day).isValid = true := by
  obtain ⟨span, year, dayOfYear, hyear, hday, rfl⟩ := exists_dayOfMarch day
  rw [ofDay_dayOfMarch hyear hday]
  exact isValid_ofMarch hyear hday

/-! ## Days of dates -/

/-- The day of the year of a day of a month. -/
def dayOfMonth (month day : Nat) : Nat :=
  (153 * (if month ≤ 2 then month + 9 else month - 3) + 2) / 5 + day - 1

theorem monthOf_dayOfMonth : ∀ month ≤ 12, 1 ≤ month → ∀ day ≤ monthLength 0 month, 1 ≤ day →
    dayOfMonth month day < 366 ∧ monthOf (dayOfMonth month day) = month ∧
      dayOf (dayOfMonth month day) = day := by
  decide +kernel

/-- Every date of the calendar is that of a day of a year. -/
theorem exists_ofMarch {date : Date} (h : date.isValid = true) : ∃ span year day, year < 400 ∧
    day < yearLength year ∧ date = ofMarch span year day := by
  obtain ⟨hmonth, hmonths, hday, hlast⟩ := isValid_iff.1 h
  obtain ⟨hlt, hmonthOf, hdayOf⟩ := monthOf_dayOfMonth date.month hmonths hmonth date.day
    (Nat.le_trans hlast (monthLength_le date.year date.month)) hday
  -- The year that began in March.
  obtain ⟨marchYear, hmarch⟩ : ∃ y, y = if date.month ≤ 2 then date.year - 1 else date.year :=
    ⟨_, rfl⟩
  have hyear : (marchYear % 400).toNat < 400 := by omega
  have hsame : date = ofMarch (marchYear / 400) (marchYear % 400).toNat
      (dayOfMonth date.month date.day) := by
    have hsplit : marchYear / 400 * 400 + ((marchYear % 400).toNat : Int) = marchYear := by omega
    simp only [ofMarch, hmonthOf, hdayOf, hsplit]
    have hcalendar : date.year = marchYear + if date.month ≤ 2 then 1 else 0 := by
      rw [hmarch]
      split <;> omega
    rw [← hcalendar]
  refine ⟨_, _, _, hyear, ?_, hsame⟩
  have hlength := @monthLength_ofMarch (marchYear / 400) _ _ hyear hlt
  rw [← hsame, hmonthOf] at hlength
  by_cases hfebruary : 337 ≤ dayOfMonth date.month date.day
  · have hfebruaryDay := dayOf_february hlt hfebruary
    rw [if_pos hfebruary] at hlength
    rw [hdayOf] at hfebruaryDay
    omega
  · have hlower := le_yearLength hyear
    omega

theorem ofDay_toDay {date : Date} (h : date.isValid = true) : ofDay date.toDay = date := by
  obtain ⟨span, year, day, hyear, hday, rfl⟩ := exists_ofMarch h
  have hbound := yearLength_le hyear
  rw [toDay_ofMarch hyear (by omega), ofDay_dayOfMarch hyear hday]

/-! ## Counting from 1970-01-01 -/

theorem iterate_next_ofDay (day : Int) (count : Nat) :
    next^[count] (ofDay day) = ofDay (day + count) := by
  induction count with
  | zero => simp
  | succ count ih =>
    rw [Function.iterate_succ_apply', ih, next_ofDay]
    congr 1
    omega

theorem isDay_ofDay (day : Int) : (ofDay day).IsDay day := by
  have hepoch : epoch = ofDay 0 := by decide
  rw [IsDay, hepoch, iterate_next_ofDay, iterate_next_ofDay]
  congr 1
  omega

example : ofDay (-1) = ⟨1969, 12, 31⟩ := by decide

example : ofDay 19782 = ⟨2024, 2, 29⟩ := by decide

/-- A date of the calendar has the day that `toDay` counts, and no other. -/
theorem isDay_iff {date : Date} (h : date.isValid = true) {day : Int} :
    date.IsDay day ↔ day = date.toDay := by
  have hdate := ofDay_toDay h
  constructor
  · intro hday
    have hepoch : epoch = ofDay 0 := by decide
    rw [IsDay, ← hdate, hepoch, iterate_next_ofDay, iterate_next_ofDay] at hday
    have hsame := congrArg toDay hday
    rw [toDay_ofDay, toDay_ofDay] at hsame
    omega
  · rintro rfl
    have hday := isDay_ofDay date.toDay
    rwa [hdate] at hday

theorem lt_of_isValid {date : Date} (h : date.isValid = true) :
    date.month < 13 ∧ date.day < 32 := by
  obtain ⟨-, hmonth, -, hday⟩ := isValid_iff.1 h
  have hlength : monthLength date.year date.month ≤ 31 := by
    unfold monthLength
    split
    · split <;> decide
    · split <;> decide
  omega

end Date

theorem dateOfDay?_eq_some_iff {day : Int} {date : Date} :
    dateOfDay? day = some date ↔ (firstDay ≤ day ∧ day ≤ lastDay) ∧ date = Date.ofDay day := by
  simp [dateOfDay?, eq_comm]

theorem isSome_dateOfDay?_iff {day : Int} :
    (dateOfDay? day).isSome = true ↔ firstDay ≤ day ∧ day ≤ lastDay := by
  simp [Option.isSome_iff_exists, dateOfDay?_eq_some_iff]

end TableFeed.Calendar
