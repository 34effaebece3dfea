import TableFeed.Proofs.Calendar.Order
import TableFeed.Proofs.ValueType.Epoch

/-!
# Times of day

A count of parts of a second from midnight on is written as the time of day that it is, when the
day has as many, and is out of range otherwise, below zero too.  Nothing is lost: what is read in
the text is the count again, and the texts of one type sort as the counts do
(`ValueType.convert_timeOfDay_exact`).
-/

namespace TableFeed

open Calendar

namespace Calendar

/-- A clock shows the time `count` units after midnight, of which a second has `perSecond`. -/
structure ShowsTime (perSecond : Nat) (count : Int) (clock : Clock) : Prop where
  /-- It shows a time of the day. -/
  valid : clock.isValid = true
  /-- It is as many units after midnight as were counted. -/
  seconds : clock.seconds * perSecond = count
  /-- There is no fraction just when the count is one of whole seconds. -/
  whole : clock.fraction = [] ↔ (perSecond : Int) ∣ count
  /-- The fraction has the fewest digits. -/
  fewest : IsFewest clock.fraction

variable {count : Int} {perSecond : Nat}

theorem isTimeOfDay_ofUnits_iff (h : perSecond ∈ Moment.units) :
    isTimeOfDay (Moment.ofUnits count perSecond).second
        (Moment.ofUnits count perSecond).nano = true ↔
      0 ≤ count ∧ count < 86400 * perSecond := by
  have hpos : (0 : Int) < perSecond := by
    exact_mod_cast Moment.pos_of_mem_units h
  have hnano := @Moment.nano_ofUnits_lt count perSecond h
  have hlow : 0 ≤ count / (perSecond : Int) ↔ 0 ≤ count := by
    rw [Int.le_ediv_iff_mul_le hpos, zero_mul]
  have hhigh : count / (perSecond : Int) < daySeconds ↔ count < 86400 * perSecond :=
    Int.ediv_lt_iff_lt_mul hpos
  simp only [isTimeOfDay, hnano, decide_true, Bool.true_or, Bool.and_true, Bool.and_eq_true,
    decide_eq_true_eq]
  exact and_congr hlow hhigh

theorem IsFewest.eq_nil_iff {digits : List Char} (h : IsFewest digits) :
    digits = [] ↔ fractionValue digits = 0 := by
  constructor
  · rintro rfl
    simp [fractionValue, Text.digitsValue]
  · intro hzero
    have hle := h.length_le 0 (by decide) ⟨0, by rw [hzero, Nat.cast_zero, zero_div]⟩
    exact List.length_eq_zero_iff.1 (Nat.le_zero.1 hle)

theorem nano_ofUnits_eq_zero_iff (h : perSecond ∈ Moment.units) :
    (Moment.ofUnits count perSecond).nano = 0 ↔ (perSecond : Int) ∣ count := by
  have hpos : (perSecond : Int) ≠ 0 := by
    exact_mod_cast (Moment.pos_of_mem_units h).ne'
  have hnanos : secondNanos / perSecond ≠ 0 := by
    intro hzero
    have hproduct := Moment.mul_div_of_mem_units h
    rw [hzero] at hproduct
    cases hproduct
  have hlow := Int.emod_nonneg count hpos
  rw [Moment.ofUnits, Int.dvd_iff_emod_eq_zero]
  simp only [Nat.mul_eq_zero, hnanos, or_false]
  omega

/-- What a count is written as shows the time of day. -/
theorem exists_showsTime (h : perSecond ∈ Moment.units)
    (hlow : 0 ≤ (Moment.ofUnits count perSecond).second)
    (hhigh : (Moment.ofUnits count perSecond).second < daySeconds) :
    ∃ clock, clock? (timeOfDayChars (Moment.ofUnits count perSecond).second.toNat
        (Moment.ofUnits count perSecond).nano) = some clock ∧
      ShowsTime perSecond count clock := by
  have hnano := @Moment.nano_ofUnits_lt count perSecond h
  have hzero := @nano_ofUnits_eq_zero_iff count perSecond h
  have hunits := @Moment.seconds_ofUnits count perSecond h
  have hpos : (perSecond : ℚ) ≠ 0 := by
    exact_mod_cast (Moment.pos_of_mem_units h).ne'
  generalize (Moment.ofUnits count perSecond).second = second,
    (Moment.ofUnits count perSecond).nano = nano at hlow hhigh hnano hzero hunits ⊢
  lift second to Nat using hlow
  obtain ⟨digits, hdigits, hvalue, hfewest⟩ := exists_exactFraction hnano
  have hlt : second < daySeconds := by
    exact_mod_cast hhigh
  refine ⟨_, clock?_clockChars hlt hnano hdigits, ?_, ?_, ?_, hfewest⟩
  · rw [daySeconds] at hlt
    simp only [Clock.isValid, Bool.and_eq_true, decide_eq_true_eq]
    omega
  · have hsplit : second = second / 3600 * 3600 + second / 60 % 60 * 60 + second % 60 := by omega
    have hexact : (second : ℚ) = (second / 3600 : Nat) * 3600 + (second / 60 % 60 : Nat) * 60 +
        (second % 60 : Nat) := by
      exact_mod_cast hsplit
    rw [Clock.seconds, hvalue, ← hexact, ← Int.cast_natCast second, hunits, div_mul_cancel₀ _ hpos]
  · rw [hfewest.eq_nil_iff, hvalue, ← hzero, div_eq_zero_iff]
    norm_num

end Calendar

namespace ValueType

/-- The types of times of day, with their units of a second. -/
def timesOfDay : List (ValueType × Nat) :=
  [(time, 1000), (microTime, 1000000), (nanoTime, 1000000000)]

/-- A text is the time of day `count` units after midnight, without needless digits. -/
def WritesTime (perSecond : Nat) (count : Int) (text : String) : Prop :=
  ∃ clock, clock? text.toList = some clock ∧ ShowsTime perSecond count clock

variable {perSecond : Nat} {s : Schema} {n : Number} {v : Int}

/-- Texts of times in one unit sort as the counts do. -/
theorem lt_of_writesTime {v' : Int} {text text' : String} (hpos : 0 < perSecond)
    (h : WritesTime perSecond v text) (h' : WritesTime perSecond v' text') (hlt : v < v') :
    text < text' := by
  obtain ⟨clock, hread, hshows⟩ := h
  obtain ⟨clock', hread', hshows'⟩ := h'
  refine String.lt_iff.2 (lt_of_clock? hread hread' hshows.valid hshows'.valid ?_)
  have hfactor : (0 : ℚ) < perSecond := by
    exact_mod_cast hpos
  rw [← mul_lt_mul_iff_of_pos_right hfactor, hshows.seconds, hshows'.seconds]
  exact_mod_cast hlt

theorem writesTime_of_timeOfDay? (h : perSecond ∈ Moment.units) {cs : List Char}
    (hcs : timeOfDay? perSecond v = some cs) : WritesTime perSecond v (String.ofList cs) := by
  obtain ⟨htime, hchars⟩ := Option.ite_none_right_eq_some.1 hcs
  obtain rfl := Option.some.inj hchars
  simp only [isTimeOfDay, Bool.and_eq_true, decide_eq_true_eq] at htime
  rw [WritesTime, String.toList_ofList]
  exact exists_showsTime h htime.1.1 htime.1.2

theorem convertsWithin_timeOf {name : String} {keys : List String} (h : perSecond ∈ Moment.units)
    (hv : n.int64? = some v) :
    ConvertsWithin (timeOf name keys perSecond) s n (0 ≤ v ∧ v < 86400 * perSecond)
      (WritesTime perSecond v) := by
  refine convertsWithin_counted rfl hv ?_ fun cs => writesTime_of_timeOfDay? h
  rw [← isTimeOfDay_ofUnits_iff h, timeOfDay?, Option.isSome_ite]

theorem writesTime_of_convert {name : String} {keys : List String} (h : perSecond ∈ Moment.units)
    {count : Whole} {text : String}
    (hconvert : (timeOf name keys perSecond).convert s (.number (.whole count)) =
      .ok (.string text)) : WritesTime perSecond count.value text := by
  obtain ⟨cs, hcs, htext⟩ := (counted_eq_ok_iff (s := s)).1 hconvert
  obtain ⟨v, hv, htime⟩ := Option.bind_eq_some_iff.1 hcs
  obtain ⟨-, rfl⟩ := int64?_whole_eq_some_iff.1 hv
  rw [Json.string.inj htext]
  exact writesTime_of_timeOfDay? h htime

theorem exists_of_mem_timesOfDay {type : ValueType} (h : (type, perSecond) ∈ timesOfDay) :
    ∃ name keys, type = timeOf name keys perSecond ∧ perSecond ∈ Moment.units := by
  simp only [timesOfDay, List.mem_cons, Prod.mk.injEq, List.not_mem_nil, or_false] at h
  obtain ⟨rfl, rfl⟩ | ⟨rfl, rfl⟩ | ⟨rfl, rfl⟩ := h
  · exact ⟨_, _, rfl, by decide⟩
  · exact ⟨_, _, rfl, by decide⟩
  · exact ⟨_, _, rfl, by decide⟩

/-! ## Every count -/

/-- Every count of 64 bits within a day is written as its time of day, and every other is out of
range.  Of two counts of one type the smaller has the smaller text. -/
theorem convert_timeOfDay_exact {type : ValueType} (htype : (type, perSecond) ∈ timesOfDay)
    (n : Whole) (hn : n.value < twoTo 63) (s : Schema) :
    ConvertsWithin type s (.whole n) (0 ≤ n.value ∧ n.value < 86400 * perSecond)
      (WritesTime perSecond n.value) ∧
    ∀ later : Whole, n.value < later.value → ∀ text text' : String,
      type.convert s (.number (.whole n)) = .ok (.string text) →
      type.convert s (.number (.whole later)) = .ok (.string text') → text < text' := by
  obtain ⟨name, keys, rfl, hunits⟩ := exists_of_mem_timesOfDay htype
  refine ⟨convertsWithin_timeOf hunits (int64?_whole_eq_some_iff.2 ⟨hn, rfl⟩), ?_⟩
  intro later hlater text text' htext htext'
  exact lt_of_writesTime (Moment.pos_of_mem_units hunits) (writesTime_of_convert hunits htext)
    (writesTime_of_convert hunits htext') hlater

/-- Two times in one second, of which only the later has a fraction. -/
theorem convert_timeOfDay_exact_fraction :
    (microTime, 1000000) ∈ timesOfDay ∧ (3723000000 : Int) < twoTo 63 ∧
      microTime.convert (.ofKind .int64) (.number (.whole ⟨3723000000, by decide, by decide⟩)) =
        .ok (.string "01:02:03") ∧
      WritesTime 1000000 3723000000 "01:02:03" ∧
      microTime.convert (.ofKind .int64) (.number (.whole ⟨3723000500, by decide, by decide⟩)) =
        .ok (.string "01:02:03.000500") ∧
      "01:02:03" < "01:02:03.000500" := by
  have hmem : (microTime, 1000000) ∈ timesOfDay := List.mem_cons_of_mem _ List.mem_cons_self
  have htext : microTime.convert (.ofKind .int64)
      (.number (.whole ⟨3723000000, by decide, by decide⟩)) = .ok (.string "01:02:03") := by
    rfl
  have hlater : microTime.convert (.ofKind .int64)
      (.number (.whole ⟨3723000500, by decide, by decide⟩)) =
        .ok (.string "01:02:03.000500") := by
    rfl
  obtain ⟨hconverts, horder⟩ := convert_timeOfDay_exact hmem
    ⟨3723000000, by decide, by decide⟩ (by decide) (.ofKind .int64)
  obtain ⟨text, hconvert, hwrites⟩ := hconverts.text (by decide)
  rw [htext] at hconvert
  obtain rfl := Json.string.inj (Except.ok.inj hconvert)
  exact ⟨hmem, by decide, htext, hwrites, hlater,
    horder ⟨3723000500, by decide, by decide⟩ (by decide) _ _ htext hlater⟩

end ValueType

end TableFeed
