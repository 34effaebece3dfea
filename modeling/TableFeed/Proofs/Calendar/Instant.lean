import Mathlib.Algebra.Order.Floor.Ring
import Mathlib.Data.Rat.Floor
import TableFeed.Proofs.Calendar.Stamp

/-!
# Instants in microseconds

The moment of a well-formed stamp is in the microsecond of the instant that the stamp denotes, cut
toward the past (`Stamp.floor_micros`).  Written with six digits it is what the moment of that
microsecond is written as, its fraction filled up with zeros (`charsWith?_microFraction`).
-/

namespace TableFeed.Calendar

open Text

/-! ## Fractions -/

theorem fractionValue_append (front rest : List Char) :
    fractionValue (front ++ rest) =
      fractionValue front + fractionValue rest / 10 ^ front.length := by
  have hvalue : digitsValue (front ++ rest) =
      10 ^ rest.length * digitsValue front + digitsValue rest := by
    rw [digitsValue, Nat.ofDigitChars_append, Nat.ofDigitChars_eq_ofDigitChars_zero]
    rfl
  rw [fractionValue, fractionValue, fractionValue, hvalue, List.length_append]
  push_cast
  field_simp
  ring

theorem fractionValue_nonneg (digits : List Char) : 0 ≤ fractionValue digits := by
  rw [fractionValue]
  positivity

theorem fractionValue_lt_one {digits : List Char} (h : digits.all Char.isDigit = true) :
    fractionValue digits < 1 := by
  have hlt : digitsValue digits < 10 ^ digits.length := digitsValue_lt h
  rw [fractionValue, div_lt_one (by positivity)]
  exact_mod_cast hlt

theorem fractionValue_take (digits : List Char) :
    fractionValue (digits.take 9) * 10 ^ 9 = fractionNanos digits := by
  have hlength : (digits.take 9).length ≤ 9 := List.length_take_le 9 digits
  have hpower : (10 : ℚ) ^ 9 =
      10 ^ (digits.take 9).length * 10 ^ (9 - (digits.take 9).length) := by
    rw [← pow_add, Nat.add_sub_cancel' hlength]
  have htenTo : tenTo (9 - (digits.take 9).length) = 10 ^ (9 - (digits.take 9).length) := rfl
  rw [fractionNanos, htenTo, fractionValue, hpower]
  push_cast
  field_simp

/-- The nanoseconds of a fraction are its value, cut after nine digits. -/
theorem floor_fractionValue_nanos {digits : List Char} (h : digits.all Char.isDigit = true) :
    ⌊fractionValue digits * 10 ^ 9⌋ = fractionNanos digits := by
  have hrest : (digits.drop 9).all Char.isDigit = true :=
    List.all_eq_true.2 fun c hc => List.all_eq_true.1 h c (List.mem_of_mem_drop hc)
  -- What is cut off is less than a nanosecond.
  have hcut : fractionValue (digits.drop 9) / 10 ^ (digits.take 9).length * 10 ^ 9 =
      fractionValue (digits.drop 9) := by
    by_cases hlength : 9 ≤ digits.length
    · rw [List.length_take, Nat.min_eq_left hlength]
      field_simp
    · rw [List.drop_of_length_le (by omega)]
      simp [fractionValue, digitsValue]
  have hvalue := fractionValue_append (digits.take 9) (digits.drop 9)
  rw [List.take_append_drop] at hvalue
  rw [hvalue, add_mul, fractionValue_take, hcut, Int.floor_natCast_add,
    Int.floor_eq_zero_iff.2 ⟨fractionValue_nonneg _, fractionValue_lt_one hrest⟩, add_zero]

theorem floor_fractionValue_micros {digits : List Char} (h : digits.all Char.isDigit = true) :
    ⌊fractionValue digits * 10 ^ 6⌋ = (fractionNanos digits / 1000 : Nat) := by
  have hscale : fractionValue digits * 10 ^ 6 = fractionValue digits * 10 ^ 9 / (1000 : Nat) := by
    push_cast
    ring
  rw [hscale, Int.floor_div_natCast, floor_fractionValue_nanos h]
  rfl

theorem fractionNanos_lt {digits : List Char} (h : digits.all Char.isDigit = true) :
    fractionNanos digits < secondNanos := by
  have hfloor := Int.floor_le (fractionValue digits * 10 ^ 9)
  have hlt := fractionValue_lt_one h
  rw [floor_fractionValue_nanos h] at hfloor
  have hnanos : (fractionNanos digits : ℚ) < 10 ^ 9 := by
    calc (fractionNanos digits : ℚ) ≤ fractionValue digits * 10 ^ 9 := by exact_mod_cast hfloor
      _ < 1 * 10 ^ 9 := by gcongr
      _ = 10 ^ 9 := one_mul _
  exact_mod_cast hnanos

/-! ## Instants -/

namespace Stamp

variable {stamp : Stamp}

/-- A well-formed stamp denotes one instant. -/
theorem denotes_iff (h : stamp.WellFormed) {instant : ℚ} :
    stamp.Denotes instant ↔
      instant = stamp.date.toDay * 86400 + stamp.clock.seconds - stamp.zone.seconds := by
  constructor
  · rintro ⟨day, hday, rfl⟩
    rw [(Date.isDay_iff h.date).1 hday]
  · rintro rfl
    exact ⟨_, (Date.isDay_iff h.date).2 rfl, rfl⟩

theorem moment_of_ne (h : stamp.clock.second ≠ 60) : stamp.moment =
    ⟨stamp.date.toDay * daySeconds + (stamp.clock.hour * 3600 + stamp.clock.minute * 60 +
      stamp.clock.second : Nat) - stamp.zone.seconds, fractionNanos stamp.clock.fraction⟩ := by
  simp only [moment, if_neg h, Nat.add_zero]

theorem moment_nano_lt (h : stamp.WellFormed) (hleap : stamp.clock.second ≠ 60) :
    stamp.moment.nano < secondNanos := by
  rw [moment_of_ne hleap]
  exact fractionNanos_lt h.fraction

/-- The instant that a stamp denotes, cut to microseconds. -/
theorem floor_micros (h : stamp.WellFormed) (hleap : stamp.clock.second ≠ 60) {instant : ℚ}
    (hinstant : stamp.Denotes instant) :
    ⌊instant * 10 ^ 6⌋ = stamp.moment.second * 1000000 + (stamp.moment.nano / 1000 : Nat) := by
  have hmoment : instant = (stamp.moment.second : ℚ) + fractionValue stamp.clock.fraction := by
    rw [(denotes_iff h).1 hinstant, moment_of_ne hleap, Clock.seconds, daySeconds]
    push_cast
    ring
  have hscale : instant * 10 ^ 6 = ((stamp.moment.second * 1000000 : Int) : ℚ) +
      fractionValue stamp.clock.fraction * 10 ^ 6 := by
    rw [hmoment]
    push_cast
    ring
  rw [hscale, Int.floor_intCast_add, floor_fractionValue_micros h.fraction,
    moment_of_ne hleap]

/-- Years of four digits are far within the written dates, whatever the zone. -/
theorem moment_second_bounds (h : stamp.WellFormed) :
    -70000000000 ≤ stamp.moment.second ∧ stamp.moment.second ≤ 260000000000 := by
  obtain ⟨hyear, hlast⟩ := h.year
  obtain ⟨hmonth, hday⟩ := Date.lt_of_isValid h.date
  have hhour := h.hour
  have hminute := h.minute
  have hsecond := h.second
  have hzone := (Zoned.isWithin_iff.1 h.zone).2
  have hlow : -800000 ≤ stamp.date.toDay := by
    simp only [Date.toDay, Date.spanDays, Date.epochShift]
    split <;> omega
  have hhigh : stamp.date.toDay ≤ 3000000 := by
    simp only [Date.toDay, Date.spanDays, Date.epochShift]
    split <;> omega
  rw [daySeconds] at hzone
  simp only [moment, daySeconds]
  split <;> omega

end Stamp

/-! ## Six digits -/

/-- A text with its fraction filled up to six digits. -/
def padFraction (cs : List Char) : List Char :=
  let fraction := (cs.dropWhile (· ≠ '.')).drop 1
  cs.takeWhile (· ≠ '.') ++ '.' :: (fraction ++ List.replicate (6 - fraction.length) '0')

theorem padFraction_append {front : List Char} (h : '.' ∉ front) (digits : List Char) :
    padFraction (front ++ pointed digits) =
      front ++ '.' :: (digits ++ List.replicate (6 - digits.length) '0') := by
  have hfront : ∀ c ∈ front, decide (c ≠ '.') = true := fun c hc =>
    decide_eq_true fun heq => h (heq ▸ hc)
  rw [padFraction, List.takeWhile_append_of_pos hfront, List.dropWhile_append_of_pos hfront]
  by_cases hdigits : digits = []
  · subst hdigits
    simp [pointed]
  · simp [pointed, hdigits]

theorem point_not_mem_fixedDigits (width n : Nat) : '.' ∉ fixedDigits width n := fun h =>
  absurd (List.all_eq_true.1 (all_isDigit_fixedDigits width n) _ h) (by decide)

theorem point_not_mem_chars (date : Date) : '.' ∉ date.chars := by
  have hyear : '.' ∉ Date.yearChars date.year := by
    rw [Date.yearChars]
    split
    · exact point_not_mem_fixedDigits _ _
    · split
      · simp [point_not_mem_fixedDigits]
      · simp [point_not_mem_fixedDigits]
  simp [Date.chars, hyear, point_not_mem_fixedDigits]

theorem point_not_mem_clockChars (second nano : Nat) : '.' ∉ clockChars second nano := by
  simp [clockChars, point_not_mem_fixedDigits]

theorem fixedDigits_mul_thousand {width : Nat} (hwidth : 0 < width) (n : Nat) :
    fixedDigits (width + 3) (n * 1000) = fixedDigits width n ++ List.replicate 3 '0' := by
  have hten (width n : Nat) (hwidth : 0 < width) :
      fixedDigits (width + 1) (n * 10) = fixedDigits width n ++ ['0'] :=
    @fixedDigits_succ _ hwidth n 0 (by decide)
  have hthousand : n * 1000 = n * 10 * 10 * 10 := by omega
  rw [hthousand, hten _ _ (by omega), hten _ _ (by omega), hten _ _ hwidth, List.append_assoc,
    List.append_assoc]
  rfl

/-- Filling up the exact fraction of whole microseconds gives them in six digits. -/
theorem exactFraction_micros {micros : Nat} (h : micros < tenTo 6) :
    ∃ digits, exactFraction (micros * 1000) = pointed digits ∧
      digits ++ List.replicate (6 - digits.length) '0' = fixedDigits 6 micros := by
  have hpointed (width n : Nat) : pointed (fixedDigits width n) = '.' :: fixedDigits width n :=
    if_neg (fixedDigits_ne_nil width n)
  have hpart : micros * 1000 % secondNanos = micros * 1000 := by
    refine Nat.mod_eq_of_lt ?_
    change micros < 1000000 at h
    rw [secondNanos]
    omega
  simp only [exactFraction, hpart]
  split_ifs with hzero hmillis hmicros
  · obtain rfl : micros = 0 := by omega
    exact ⟨[], rfl, rfl⟩
  · have hthousand : micros = micros / 1000 * 1000 := by omega
    have hlt : micros / 1000 < tenTo 3 := by
      change micros < 1000000 at h
      change micros / 1000 < 1000
      omega
    refine ⟨fixedDigits 3 (micros / 1000), ?_, ?_⟩
    · rw [hpointed, show micros * 1000 / 1000000 = micros / 1000 by omega]
    · rw [length_fixedDigits (by decide) hlt, ← fixedDigits_mul_thousand (by decide), ← hthousand]
  · refine ⟨fixedDigits 6 micros, ?_, ?_⟩
    · rw [hpointed, Nat.mul_div_cancel micros (by decide)]
    · rw [length_fixedDigits (by decide) h, Nat.sub_self, List.replicate_zero, List.append_nil]
  · omega

theorem micros_lt {nano : Nat} (h : nano < secondNanos) : nano / 1000 < tenTo 6 := by
  rw [secondNanos] at h
  change nano / 1000 < 1000000
  omega

/-- A moment written with six digits is the moment of its microsecond, its fraction filled up. -/
theorem charsWith?_microFraction {m : Moment} (h : m.nano < secondNanos) :
    m.charsWith? microFraction =
      ((Moment.ofUnits (m.second * 1000000 + (m.nano / 1000 : Nat)) 1000000).charsWith?
        exactFraction).map padFraction := by
  obtain ⟨second, nano⟩ := m
  change nano < secondNanos at h
  have hmicros := micros_lt h
  have hunits : Moment.ofUnits (second * 1000000 + (nano / 1000 : Nat)) 1000000 =
      ⟨second, nano / 1000 * 1000⟩ := by
    change nano / 1000 < 1000000 at hmicros
    simp only [Moment.ofUnits, secondNanos, Moment.mk.injEq]
    omega
  obtain ⟨digits, hexact, hpad⟩ := exactFraction_micros hmicros
  have hclock (s : Nat) : clockChars s (nano / 1000 * 1000) = clockChars s nano := by
    have hless : nano / 1000 * 1000 < secondNanos := (Nat.div_mul_le_self nano 1000).trans_lt h
    rw [clockChars, clockChars, Nat.div_eq_of_lt h, Nat.div_eq_of_lt hless]
  have hmicro : microFraction nano = '.' :: fixedDigits 6 (nano / 1000) := by
    rw [microFraction, Nat.mod_eq_of_lt h]
  rw [hunits, Moment.charsWith?, Moment.charsWith?, Option.map_map]
  refine congrArg (fun f => Option.map f _) (funext fun date => ?_)
  have hpoint : '.' ∉ date.chars ++ ' ' :: clockChars (second % daySeconds).toNat nano := by
    simp [point_not_mem_chars, point_not_mem_clockChars]
  have hfill := padFraction_append hpoint digits
  rw [hpad] at hfill
  simp only [Function.comp_apply, hclock, hexact, hmicro]
  simpa only [List.append_assoc, List.cons_append] using hfill.symm

end TableFeed.Calendar
