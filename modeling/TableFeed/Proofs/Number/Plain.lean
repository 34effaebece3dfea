import TableFeed.Proofs.Number.Shortest
import TableFeed.Proofs.Text.Digits

/-!
# Plain decimal text

Whole numbers and scaled numbers are written in plain digits.  A binary64 number is so just when it
is zero or lies from 0.00001 to below 10000000000000000 (`Binary64.isPlain_chars_iff`); any other is
written with an exponent.
-/

namespace TableFeed

open Text

/-- Digits, at least one, and possibly a point with at least one digit after it. -/
def IsUnsignedPlain (cs : List Char) : Prop :=
  ∃ whole fraction, cs = whole ++ fraction ∧ whole ≠ [] ∧ whole.all Char.isDigit = true ∧
    (fraction = [] ∨
      ∃ digits, fraction = '.' :: digits ∧ digits ≠ [] ∧ digits.all Char.isDigit = true)

/-- Plain decimal text: an unsigned one, possibly with a minus sign before it. -/
def IsPlain (cs : List Char) : Prop :=
  ∃ sign rest, cs = sign ++ rest ∧ (sign = [] ∨ sign = ['-']) ∧ IsUnsignedPlain rest

/-- An exponent is not plain. -/
theorem not_isPlain_of_mem {cs : List Char} (h : 'e' ∈ cs) : ¬ IsPlain cs := by
  rintro ⟨sign, rest, rfl, hsign, whole, fraction, rfl, -, hwhole, hfraction⟩
  have hdigit {digits : List Char} (hdigits : digits.all Char.isDigit = true) : 'e' ∉ digits :=
    fun he => absurd (List.all_eq_true.1 hdigits _ he) (by decide)
  have hsigned : 'e' ∉ sign := by
    rcases hsign with rfl | rfl
    · exact List.not_mem_nil
    · decide
  have hpoint : 'e' ∉ fraction := by
    rcases hfraction with rfl | ⟨digits, rfl, -, hdigits⟩
    · exact List.not_mem_nil
    · simpa using hdigit hdigits
  simp only [List.mem_append] at h
  rcases h with he | he | he
  · exact hsigned he
  · exact hdigit hwhole he
  · exact hpoint he

theorem isPlain_signed {negative : Bool} {cs : List Char} (h : IsUnsignedPlain cs) :
    IsPlain ((if negative then ['-'] else []) ++ cs) := by
  cases negative with
  | true => exact ⟨['-'], cs, rfl, .inr rfl, h⟩
  | false => exact ⟨[], cs, rfl, .inl rfl, h⟩

theorem isUnsignedPlain_of_spells {number scale : Nat} {whole fraction : List Char}
    (h : Decimal.Spells number scale whole fraction) :
    IsUnsignedPlain (whole ++ if scale = 0 then [] else '.' :: fraction) := by
  have hdigits := h.digits
  rw [List.all_append, Bool.and_eq_true] at hdigits
  refine ⟨whole, _, rfl, h.whole_ne_nil, hdigits.1, ?_⟩
  by_cases hscale : scale = 0
  · exact .inl (if_pos hscale)
  · rw [if_neg hscale]
    refine .inr ⟨fraction, rfl, ?_, hdigits.2⟩
    rw [← List.length_pos_iff, h.length_fraction]
    exact Nat.pos_of_ne_zero hscale

theorem isPlain_decimalChars (n : Int) (scale : Nat) : IsPlain (Decimal.chars n scale) := by
  obtain ⟨whole, fraction, hspells, hchars⟩ := Decimal.isExact_chars n scale
  rw [hchars]
  have hplain := @isPlain_signed (decide (n < 0)) _ (isUnsignedPlain_of_spells hspells)
  simpa only [decide_eq_true_eq] using hplain

theorem isPlain_intChars (n : Int) : IsPlain (intChars n) := by
  have hsame : intChars n = Decimal.chars n 0 := by
    rw [intChars, Decimal.chars]
    split <;> rfl
  rw [hsame]
  exact isPlain_decimalChars n 0

namespace Binary64

/-! ## The digits of a number -/

/-- The decimal exponent of the first digit. -/
def Decimal.first (d : Decimal) : Int :=
  d.exponent + ((natChars d.digits).length : Int) - 1

theorem isUnsignedPlain_plainChars (n : Nat) (exponent : Int) :
    IsUnsignedPlain (plainChars (natChars n) exponent) := by
  rw [plainChars]
  split
  · refine ⟨natChars n ++ List.replicate exponent.toNat '0', ['.', '0'], rfl, ?_, ?_,
      .inr ⟨['0'], rfl, by decide, by decide⟩⟩
    · exact List.append_ne_nil_of_left_ne_nil (natChars_ne_nil n) _
    · simp [all_isDigit_natChars]
  · next hneg =>
    have hplaces : 0 < (-exponent).toNat := by omega
    have hplain := isUnsignedPlain_of_spells (Decimal.spells_padZeros n hplaces rfl)
    rwa [if_neg hplaces.ne'] at hplain

theorem mem_scientificChars (digits : List Char) (first : Int) :
    'e' ∈ scientificChars digits first := by
  simp [scientificChars]

/-- Digits are written plainly when the first of them is near the point. -/
theorem isPlain_unsignedChars_iff {negative : Bool} {d : Decimal} :
    IsPlain ((if negative then ['-'] else []) ++ unsignedChars d) ↔
      -5 ≤ d.first ∧ d.first ≤ 15 := by
  have hchars : unsignedChars d = if -5 ≤ d.first ∧ d.first ≤ 15
      then plainChars (natChars d.digits) d.exponent
      else scientificChars (natChars d.digits) d.first := rfl
  by_cases hnear : -5 ≤ d.first ∧ d.first ≤ 15
  · rw [hchars, if_pos hnear]
    exact iff_of_true (isPlain_signed (isUnsignedPlain_plainChars _ _)) hnear
  · have hmem := mem_scientificChars (natChars d.digits) d.first
    rw [hchars, if_neg hnear]
    exact iff_of_false (not_isPlain_of_mem (List.mem_append_right _ hmem)) hnear

namespace Decimal

variable {d : Decimal}

theorem digits_bounds (h : 0 < d.digits) : ∃ width : Nat,
    d.first = d.exponent + width ∧ 10 ^ width ≤ d.digits ∧ d.digits < 10 ^ (width + 1) := by
  obtain ⟨width, hwidth⟩ : ∃ width, (natChars d.digits).length = width + 1 :=
    Nat.exists_eq_succ_of_ne_zero (mt List.eq_nil_of_length_eq_zero (natChars_ne_nil d.digits))
  have hle (count : Nat) (hcount : 0 < count) := @length_natChars_le_iff d.digits count hcount
  refine ⟨width, ?_, ?_, (hle (width + 1) width.succ_pos).1 hwidth.le⟩
  · rw [first, hwidth]
    push_cast
    ring
  · by_cases hzero : width = 0
    · subst hzero
      exact h
    · refine Nat.not_lt.1 fun hlt => ?_
      have hshort := (hle width (Nat.pos_of_ne_zero hzero)).2 hlt
      omega

/-- The first digit tells how large the number is. -/
theorem le_first_iff (h : 0 < d.digits) {n : Int} : n ≤ d.first ↔ (10 : ℚ) ^ n ≤ d.value := by
  obtain ⟨width, hfirst, hlower, hupper⟩ := digits_bounds h
  have hexponent : (0 : ℚ) < 10 ^ d.exponent := by positivity
  have hlow : (10 : ℚ) ^ d.first ≤ d.value := by
    have hdigits : (10 : ℚ) ^ width ≤ d.digits := by exact_mod_cast hlower
    rw [hfirst, add_comm, zpow_add₀ (by norm_num), zpow_natCast, value]
    gcongr
  have hhigh : d.value < (10 : ℚ) ^ (d.first + 1) := by
    have hdigits : (d.digits : ℚ) < 10 ^ (width + 1) := by exact_mod_cast hupper
    rw [hfirst, add_assoc, add_comm, ← Nat.cast_succ, zpow_add₀ (by norm_num), zpow_natCast, value]
    gcongr
  constructor
  · intro hn
    exact (zpow_le_zpow_right₀ (by norm_num) hn).trans hlow
  · intro hn
    by_contra hlt
    have hpower : (10 : ℚ) ^ (d.first + 1) ≤ 10 ^ n :=
      zpow_le_zpow_right₀ (by norm_num) (by omega)
    exact absurd (hhigh.trans_le (hpower.trans hn)) (lt_irrefl _)

end Decimal

/-! ## The two thresholds -/

variable {x : Binary64}

theorem digits_shortest_pos (h : x.isZero = false) : 0 < x.shortest.digits := by
  have hlow := four_mul_le_low x
  have hsignificand := significand_pos h
  have hpos : (0 : ℚ) < x.interval.low := by
    exact_mod_cast (show 0 < x.interval.low by omega)
  have hvalue : (0 : ℚ) < x.shortest.value :=
    (mul_pos hpos (by positivity)).trans_le (contains_value_shortest h).low_le
  refine Nat.pos_of_ne_zero fun hzero => ?_
  rw [Decimal.value, hzero, Nat.cast_zero, zero_mul] at hvalue
  exact lt_irrefl _ hvalue

theorem nearest_upper : Nearest 5000000000000000 1 (10 ^ (16 : Int)) := by
  constructor <;> norm_num [twoTo]

theorem nearest_lower : Nearest 5902958103587057 (-69) (10 ^ (-5 : Int)) := by
  constructor <;> norm_num [twoTo]

theorem shortest_upper (hsignificand : x.significand = 5000000000000000)
    (hexponent : x.exponent = 1) : x.shortest = ⟨1, 16⟩ := by
  simp only [shortest, isZero, interval, decimalExponentBound, hsignificand, hexponent]
  decide +kernel

theorem shortest_lower (hsignificand : x.significand = 5902958103587057)
    (hexponent : x.exponent = -69) : x.shortest = ⟨1, -5⟩ := by
  simp only [shortest, isZero, interval, decimalExponentBound, hsignificand, hexponent]
  decide +kernel

theorem value_shortest_lt_upper_iff (h : x.isZero = false) :
    x.shortest.value < 10 ^ (16 : Int) ↔ x.magnitude < 10 ^ (16 : Int) := by
  refine value_shortest_lt_iff nearest_upper h fun hsignificand hexponent => ?_
  rw [shortest_upper hsignificand hexponent, magnitude, hsignificand, hexponent, Decimal.value]
  norm_num

theorem value_shortest_lt_lower_iff (h : x.isZero = false) :
    x.shortest.value < 10 ^ (-5 : Int) ↔ x.magnitude < 10 ^ (-5 : Int) := by
  refine value_shortest_lt_iff nearest_lower h fun hsignificand hexponent => ?_
  rw [shortest_lower hsignificand hexponent, magnitude, hsignificand, hexponent, Decimal.value]
  norm_num

/-- A number is written plainly when it is zero or lies between the two thresholds. -/
theorem isPlain_chars_iff (x : Binary64) :
    IsPlain x.chars ↔
      x.isZero = true ∨ (10 : ℚ) ^ (-5 : Int) ≤ x.magnitude ∧ x.magnitude < 10 ^ (16 : Int) := by
  rw [chars, isPlain_unsignedChars_iff]
  cases hzero : x.isZero with
  | true =>
    rw [shortest, hzero, if_pos rfl]
    simp only [true_or, iff_true]
    decide
  | false =>
    have hpos := digits_shortest_pos hzero
    have hlast : x.shortest.first ≤ 15 ↔ ¬ 16 ≤ x.shortest.first := by omega
    rw [hlast, Decimal.le_first_iff hpos, Decimal.le_first_iff hpos, not_le,
      value_shortest_lt_upper_iff hzero, ← not_lt, value_shortest_lt_lower_iff hzero, not_lt]
    simp only [Bool.false_eq_true, false_or]

end Binary64

end TableFeed
