import TableFeed.Proofs.Calendar.Written
import TableFeed.ValueType.Temporal

/-!
# Dates and timestamps counted from 1970-01-01

A count of days, or of parts of a second, is written as the date and time that it is away from
1970-01-01, before it when the count is negative.  Nothing is lost: what is read in the text is the
count again, and there is a text for every count that the calendar has a written date for
(`ValueType.convert_counted_exact`).
-/

namespace TableFeed

open Calendar

namespace Calendar.Moment

variable {count : Int} {perSecond : Nat}

/-- The units of a second that timestamps are counted in. -/
def units : List Nat := [1000, 1000000, 1000000000]

theorem pos_of_mem_units (h : perSecond ∈ units) : 0 < perSecond := by
  simp only [units, List.mem_cons, List.not_mem_nil, or_false] at h
  omega

theorem mul_div_of_mem_units (h : perSecond ∈ units) :
    perSecond * (secondNanos / perSecond) = secondNanos := by
  simp only [units, List.mem_cons, List.not_mem_nil, or_false] at h
  rcases h with rfl | rfl | rfl
  · rfl
  · rfl
  · rfl

theorem nano_ofUnits_lt (h : perSecond ∈ units) : (ofUnits count perSecond).nano < secondNanos := by
  have hpos := pos_of_mem_units h
  have hlow := Int.emod_nonneg count (show (perSecond : Int) ≠ 0 by omega)
  have hlt := Int.emod_lt_of_pos count (show (0 : Int) < perSecond by omega)
  have hnanos : 0 < secondNanos / perSecond := by
    refine Nat.pos_of_ne_zero fun hzero => ?_
    have hproduct := mul_div_of_mem_units h
    rw [hzero] at hproduct
    cases hproduct
  calc (count % perSecond).toNat * (secondNanos / perSecond)
      < perSecond * (secondNanos / perSecond) := Nat.mul_lt_mul_of_pos_right (by omega) hnanos
    _ = secondNanos := mul_div_of_mem_units h

/-- A moment is as many units away as were counted. -/
theorem seconds_ofUnits (h : perSecond ∈ units) :
    ((ofUnits count perSecond).second : ℚ) + (ofUnits count perSecond).nano / 10 ^ 9 =
      count / perSecond := by
  have hpos := pos_of_mem_units h
  have hne : (perSecond : ℚ) ≠ 0 := by
    exact_mod_cast hpos.ne'
  have hlow := Int.emod_nonneg count (show (perSecond : Int) ≠ 0 by omega)
  have hsplit := Int.mul_ediv_add_emod count perSecond
  have hnanos := mul_div_of_mem_units h
  simp only [ofUnits]
  generalize count / (perSecond : Int) = second, count % (perSecond : Int) = part,
    secondNanos / perSecond = nanos at hlow hsplit hnanos ⊢
  lift part to Nat using hlow
  have hcount : (perSecond : ℚ) * second + part = count := by
    exact_mod_cast hsplit
  have hunit : (perSecond : ℚ) * nanos = 10 ^ 9 := by
    rw [← Nat.cast_mul, hnanos, secondNanos]
    norm_num
  rw [← hcount, Int.toNat_natCast, Nat.cast_mul, eq_div_iff hne]
  calc ((second : ℚ) + part * nanos / 10 ^ 9) * perSecond
      = perSecond * (second : ℚ) + part * ((perSecond : ℚ) * nanos) / 10 ^ 9 := by ring
    _ = perSecond * (second : ℚ) + part := by
        rw [hunit, mul_div_assoc, div_self (by positivity), mul_one]

theorem isSome_charsWith_ofUnits_iff {fraction : Nat → List Char} (h : perSecond ∈ units) :
    ((ofUnits count perSecond).charsWith? fraction).isSome = true ↔
      firstDay * daySeconds * perSecond ≤ count ∧
        count < (lastDay + 1) * daySeconds * perSecond := by
  have hpos : (0 : Int) < perSecond := by
    exact_mod_cast pos_of_mem_units h
  rw [isSome_charsWith_iff, ofUnits, Int.le_ediv_iff_mul_le hpos, Int.ediv_lt_iff_lt_mul hpos]

/-- Counting in smaller units does not change the moment. -/
theorem ofUnits_scaled :
    ofUnits (count * 1000) 1000000 = ofUnits count 1000 ∧
      ofUnits (count * 1000000) 1000000000 = ofUnits count 1000 := by
  simp only [ofUnits, secondNanos, mk.injEq]
  omega

end Calendar.Moment

namespace ValueType

/-- The timestamps that are counted, with their units of a second. -/
def timestamps : List (ValueType × Nat) :=
  [(timestamp, 1000), (microTimestamp, 1000000), (nanoTimestamp, 1000000000)]

/-- A text is a date, the day counted from 1970-01-01. -/
def WritesDay (day : Int) (text : String) : Prop :=
  ∃ date, date? text.toList = some (date, []) ∧ date.isValid = true ∧ date.IsDay day

/-- A text is a date and time, `seconds` after 1970-01-01T00:00:00, without needless digits. -/
def WritesMoment (seconds : ℚ) (text : String) : Prop :=
  ∃ date clock, dateTime? text.toList = some (date, clock) ∧ ShowsMoment date clock seconds ∧
    IsFewest clock.fraction

/-- A type converts a number to a text as asked when the number is within a range, and says that
the number is out of range when it is not. -/
structure ConvertsWithin (type : ValueType) (s : Schema) (n : Number) (within : Prop)
    (Writes : String → Prop) : Prop where
  /-- Within the range there is a text as asked. -/
  text : within → ∃ text, type.convert s (.number n) = .ok (.string text) ∧ Writes text
  /-- Outside it there is none. -/
  error : ¬ within → type.convert s (.number n) = .error (.outOfRange type.name n.text)

variable {n : Number} {v : Int} {s : Schema}

theorem counted_eq_ok_iff {name : String} {render : Int → Option (List Char)} {text : Json} :
    counted name render s (.number n) = .ok text ↔
      ∃ cs, n.int64?.bind render = some cs ∧ text = .string (String.ofList cs) := by
  simp only [counted, nullOr]
  cases n.int64?.bind render with
  | none => simp
  | some cs => simp [eq_comm]

theorem convertsWithin_counted {type : ValueType} {render : Int → Option (List Char)}
    (hconvert : type.convert = counted type.name render) (hv : n.int64? = some v) {within : Prop}
    (hwithin : (render v).isSome = true ↔ within) {Writes : String → Prop}
    (hwrites : ∀ cs, render v = some cs → Writes (String.ofList cs)) :
    ConvertsWithin type s n within Writes := by
  constructor
  · intro hin
    obtain ⟨cs, hcs⟩ := Option.isSome_iff_exists.1 (hwithin.2 hin)
    refine ⟨String.ofList cs, ?_, hwrites cs hcs⟩
    rw [hconvert, counted_eq_ok_iff, hv]
    exact ⟨cs, hcs, rfl⟩
  · intro hout
    have hnone : render v = none := by
      rw [← Option.not_isSome_iff_eq_none]
      exact fun hsome => hout (hwithin.1 hsome)
    simp only [hconvert, counted, nullOr, hv, Option.bind_some, hnone]

theorem convertsWithin_date (hv : n.int64? = some v) :
    ConvertsWithin date s n (firstDay ≤ v ∧ v ≤ lastDay) (WritesDay v) := by
  refine convertsWithin_counted rfl hv ?_ ?_
  · rw [Option.isSome_map, isSome_dateOfDay?_iff]
  · intro cs hcs
    obtain ⟨written, hwritten, rfl⟩ := Option.map_eq_some_iff.1 hcs
    obtain ⟨-, rfl⟩ := dateOfDay?_eq_some_iff.1 hwritten
    have hread := @date?_chars _ (Date.isValid_ofDay v) [] rfl
    rw [List.append_nil] at hread
    rw [WritesDay, String.toList_ofList]
    exact ⟨_, hread, Date.isValid_ofDay v, Date.isDay_ofDay v⟩

theorem convertsWithin_timestampOf {name columnType : String} {keys : List String}
    {perSecond : Nat} (hunits : perSecond ∈ Moment.units) (hv : n.int64? = some v) :
    ConvertsWithin (timestampOf name keys perSecond columnType) s n
      (firstDay * daySeconds * perSecond ≤ v ∧ v < (lastDay + 1) * daySeconds * perSecond)
      (WritesMoment (v / perSecond)) := by
  refine convertsWithin_counted rfl hv (Moment.isSome_charsWith_ofUnits_iff hunits) ?_
  intro cs hcs
  have hnano : (Moment.ofUnits v perSecond).nano < secondNanos := Moment.nano_ofUnits_lt hunits
  obtain ⟨digits, hdigits, hvalue, hfewest⟩ := exists_exactFraction hnano
  obtain ⟨date, clock, hread, rfl, hshows⟩ := dateTime?_charsWith hnano hdigits hcs
  rw [hvalue, Moment.seconds_ofUnits hunits] at hshows
  rw [WritesMoment, String.toList_ofList]
  exact ⟨date, clock, hread, hshows, hfewest⟩

theorem int64?_whole_eq_some_iff {n : Whole} :
    (Number.whole n).int64? = some v ↔ n.value < twoTo 63 ∧ n.value = v := by
  simp [Number.int64?]

/-- What a timestamp is converted to depends on the moment alone. -/
theorem convert_timestampOf_congr {name name' columnType columnType' : String}
    {keys keys' : List String} {perSecond perSecond' : Nat} {count count' : Whole}
    (hsame : Moment.ofUnits count.value perSecond = Moment.ofUnits count'.value perSecond')
    {text text' : Json}
    (h : (timestampOf name keys perSecond columnType).convert s (.number (.whole count)) = .ok text)
    (h' : (timestampOf name' keys' perSecond' columnType').convert s (.number (.whole count')) =
      .ok text') : text = text' := by
  obtain ⟨cs, hcs, rfl⟩ := (counted_eq_ok_iff (s := s)).1 h
  obtain ⟨cs', hcs', rfl⟩ := (counted_eq_ok_iff (s := s)).1 h'
  obtain ⟨v, hv, hmoment⟩ := Option.bind_eq_some_iff.1 hcs
  obtain ⟨v', hv', hmoment'⟩ := Option.bind_eq_some_iff.1 hcs'
  obtain ⟨-, rfl⟩ := int64?_whole_eq_some_iff.1 hv
  obtain ⟨-, rfl⟩ := int64?_whole_eq_some_iff.1 hv'
  rw [hsame, hmoment'] at hmoment
  rw [Option.some.inj hmoment]

/-! ## Every count -/

/-- Every count of 64 bits, below zero too, is written as the date or time that is as far from
1970-01-01, up to the bounds of the written dates, and counts of one moment in different units are
written alike. -/
theorem convert_counted_exact (n : Whole) (hn : n.value < twoTo 63) (s : Schema) :
    ∃ first last : Int,
      (⟨-262143, 1, 1⟩ : Date).IsDay first ∧ (⟨262142, 12, 31⟩ : Date).IsDay last ∧
      ConvertsWithin date s (.whole n) (first ≤ n.value ∧ n.value ≤ last) (WritesDay n.value) ∧
      (∀ type perSecond, (type, perSecond) ∈ timestamps →
        ConvertsWithin type s (.whole n)
          (first * 86400 * perSecond ≤ n.value ∧ n.value < (last + 1) * 86400 * perSecond)
          (WritesMoment (n.value / perSecond))) ∧
      ∀ micros nanos : Whole, micros.value = n.value * 1000 → nanos.value = n.value * 1000000 →
        ∀ text text' text'' : Json, timestamp.convert s (.number (.whole n)) = .ok text →
          microTimestamp.convert s (.number (.whole micros)) = .ok text' →
          nanoTimestamp.convert s (.number (.whole nanos)) = .ok text'' →
          text = text' ∧ text' = text'' := by
  have hv : (Number.whole n).int64? = some n.value := int64?_whole_eq_some_iff.2 ⟨hn, rfl⟩
  refine ⟨firstDay, lastDay, (Date.isDay_iff (by decide)).2 rfl, (Date.isDay_iff (by decide)).2 rfl,
    convertsWithin_date hv, ?_, ?_⟩
  · intro type perSecond hmem
    simp only [timestamps, List.mem_cons, Prod.mk.injEq, List.not_mem_nil, or_false] at hmem
    obtain ⟨rfl, rfl⟩ | ⟨rfl, rfl⟩ | ⟨rfl, rfl⟩ := hmem
    · exact convertsWithin_timestampOf (by decide) hv
    · exact convertsWithin_timestampOf (by decide) hv
    · exact convertsWithin_timestampOf (by decide) hv
  · intro micros nanos hmicros hnanos text text' text'' h h' h''
    obtain ⟨hmoment, hmoment'⟩ := @Moment.ofUnits_scaled n.value
    rw [← hmicros] at hmoment
    rw [← hnanos] at hmoment'
    exact ⟨convert_timestampOf_congr hmoment.symm h h',
      convert_timestampOf_congr (hmoment.trans hmoment'.symm) h' h''⟩

theorem convert_counted_exact_before_epoch :
    (-1 : Int) < twoTo 63 ∧
      timestamp.convert (.ofKind .int64) (.number (.whole ⟨-1, by decide, by decide⟩)) =
        .ok (.string "1969-12-31 23:59:59.999") ∧
      WritesMoment ((-1 : Int) / (1000 : Nat)) "1969-12-31 23:59:59.999" := by
  have htext : timestamp.convert (.ofKind .int64)
      (.number (.whole ⟨-1, by decide, by decide⟩)) = .ok (.string "1969-12-31 23:59:59.999") := by
    rfl
  obtain ⟨first, last, hfirst, hlast, -, htimestamps, -⟩ :=
    convert_counted_exact ⟨-1, by decide, by decide⟩ (by decide) (.ofKind .int64)
  rw [Date.isDay_iff (by decide)] at hfirst hlast
  have hmem : (timestamp, 1000) ∈ timestamps := List.mem_cons_self
  have hconverts := htimestamps timestamp 1000 hmem
  rw [hfirst, hlast] at hconverts
  obtain ⟨text, hconvert, hwrites⟩ := hconverts.text (by decide)
  rw [htext] at hconvert
  obtain rfl := Json.string.inj (Except.ok.inj hconvert)
  exact ⟨by decide, htext, hwrites⟩

end ValueType

end TableFeed
