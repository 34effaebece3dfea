import Mathlib.Algebra.Order.Field.Power
import Mathlib.Algebra.Order.Field.Rat
import Mathlib.Tactic.FieldSimp
import Mathlib.Tactic.Linarith
import Mathlib.Tactic.NormNum
import Mathlib.Tactic.Ring
import TableFeed.Number.Shortest

/-!
# The value of the shortest digits

The digits that `shortest` finds are in the interval of reals that round to the number
(`contains_value_shortest`); the search never runs out of grids.  A threshold that a number is
nearest to therefore parts the digits as it parts the numbers (`value_shortest_lt_iff`).
-/

namespace TableFeed.Binary64

/-- The absolute value of a number. -/
def magnitude (x : Binary64) : ℚ :=
  x.significand * 2 ^ x.exponent

/-- The number that digits write. -/
def Decimal.value (d : Decimal) : ℚ :=
  d.digits * 10 ^ d.exponent

/-- A rational number is in the interval or one of its ends; a quarter of the last place is
`2 ^ quarter`. -/
structure Interval.Contains (i : Interval) (quarter : Int) (r : ℚ) : Prop where
  /-- It is not below the lower end. -/
  low_le : i.low * 2 ^ quarter ≤ r
  /-- It is not above the upper end. -/
  le_high : r ≤ i.high * 2 ^ quarter

/-! ## Grids -/

theorem zpow_mul_pow_toNat {b : ℚ} (hb : b ≠ 0) (n : Int) :
    b ^ n * b ^ (-n).toNat = b ^ n.toNat := by
  rw [← zpow_natCast, ← zpow_natCast, ← zpow_add₀ hb]
  congr 1
  omega

theorem cast_twoTo (n : Nat) : (twoTo n : ℚ) = 2 ^ n := by
  rw [twoTo, Nat.pow_eq, Nat.cast_pow, Nat.cast_ofNat]

theorem cast_tenTo (n : Nat) : (tenTo n : ℚ) = 10 ^ n := by
  rw [tenTo, Nat.pow_eq, Nat.cast_pow, Nat.cast_ofNat]

section Grid

variable {i : Interval} {quarter k : Int} {digits : Nat}

/-- The unit that `onGrid?` counts quarters of the last place in. -/
def gridScale (quarter k : Int) : Nat :=
  twoTo quarter.toNat * tenTo (-k).toNat

/-- The unit that `onGrid?` counts steps of the grid in. -/
def gridStep (quarter k : Int) : Nat :=
  tenTo k.toNat * twoTo (-quarter).toNat

theorem gridScale_pos (quarter k : Int) : 0 < gridScale quarter k :=
  Nat.mul_pos (twoTo_pos _) (tenTo_pos _)

theorem gridStep_pos (quarter k : Int) : 0 < gridStep quarter k :=
  Nat.mul_pos (tenTo_pos _) (twoTo_pos _)

/-- A step is to a quarter as the power of ten is to that of two. -/
theorem gridStep_mul (quarter k : Int) :
    (gridStep quarter k : ℚ) * 2 ^ quarter = gridScale quarter k * 10 ^ k := by
  have htwo := zpow_mul_pow_toNat (show (2 : ℚ) ≠ 0 by norm_num) quarter
  have hten := zpow_mul_pow_toNat (show (10 : ℚ) ≠ 0 by norm_num) k
  rw [gridStep, gridScale, Nat.cast_mul, Nat.cast_mul, cast_twoTo, cast_twoTo, cast_tenTo,
    cast_tenTo, ← htwo, ← hten]
  ring

theorem contains_of_holds
    (h : i.holds (gridScale quarter k) (digits * gridStep quarter k) = true) :
    i.Contains quarter (digits * 10 ^ k) := by
  have hscale : (0 : ℚ) < gridScale quarter k := by exact_mod_cast gridScale_pos quarter k
  have hpoint : i.low * gridScale quarter k ≤ digits * gridStep quarter k ∧
      digits * gridStep quarter k ≤ i.high * gridScale quarter k := by
    rw [Interval.holds] at h
    split at h
    · simpa using h
    · obtain ⟨hlow, hhigh⟩ : i.low * gridScale quarter k < digits * gridStep quarter k ∧
        digits * gridStep quarter k < i.high * gridScale quarter k := by simpa using h
      exact ⟨hlow.le, hhigh.le⟩
  have hlow : (i.low : ℚ) * gridScale quarter k ≤ digits * gridStep quarter k := by
    exact_mod_cast hpoint.1
  have hhigh : (digits : ℚ) * gridStep quarter k ≤ i.high * gridScale quarter k := by
    exact_mod_cast hpoint.2
  have hstep := gridStep_mul quarter k
  constructor
  · refine le_of_mul_le_mul_right ?_ hscale
    calc (i.low : ℚ) * 2 ^ quarter * gridScale quarter k
        = i.low * gridScale quarter k * 2 ^ quarter := by ring
      _ ≤ digits * gridStep quarter k * 2 ^ quarter := by gcongr
      _ = digits * 10 ^ k * gridScale quarter k := by
        rw [mul_assoc, hstep]
        ring
  · refine le_of_mul_le_mul_right ?_ hscale
    calc (digits : ℚ) * 10 ^ k * gridScale quarter k
        = digits * gridStep quarter k * 2 ^ quarter := by
          rw [mul_assoc _ _ (2 ^ quarter), hstep]
          ring
      _ ≤ i.high * gridScale quarter k * 2 ^ quarter := by gcongr
      _ = i.high * 2 ^ quarter * gridScale quarter k := by ring

/-- What is found on a grid is in the interval. -/
theorem contains_of_onGrid? (h : onGrid? i quarter k = some digits) :
    i.Contains quarter (digits * 10 ^ k) := by
  refine contains_of_holds ?_
  unfold onGrid? at h
  extract_lets scale step value below lowHit highHit at h
  split at h
  · next hboth =>
    obtain ⟨hlow, hhigh⟩ := Bool.and_eq_true_iff.1 hboth
    split at h
    · exact Option.some.inj h ▸ hlow
    · exact Option.some.inj h ▸ hhigh
  · split at h
    · next hlow => exact Option.some.inj h ▸ hlow
    · split at h
      · next hhigh => exact Option.some.inj h ▸ hhigh
      · cases h

/-- A grid that is finer than the upper half of the interval meets it. -/
theorem isSome_onGrid? (hlow : i.low ≤ i.middle) (hhigh : i.high = i.middle + 2)
    (hfine : (10 : ℚ) ^ k < 2 * 2 ^ quarter) : (onGrid? i quarter k).isSome = true := by
  have hstep : gridStep quarter k < 2 * gridScale quarter k := by
    have hquarter : (0 : ℚ) < 2 ^ quarter := by positivity
    have hscale : (0 : ℚ) < gridScale quarter k := by exact_mod_cast gridScale_pos quarter k
    have hless : (gridStep quarter k : ℚ) < 2 * gridScale quarter k := by
      refine lt_of_mul_lt_mul_right ?_ hquarter.le
      calc (gridStep quarter k : ℚ) * 2 ^ quarter = gridScale quarter k * 10 ^ k :=
            gridStep_mul quarter k
        _ < gridScale quarter k * (2 * 2 ^ quarter) := by gcongr
        _ = 2 * gridScale quarter k * 2 ^ quarter := by ring
    exact_mod_cast hless
  have hpos := gridStep_pos quarter k
  unfold onGrid?
  extract_lets scale step value below lowHit highHit
  change step < 2 * scale at hstep
  change 0 < step at hpos
  clear_value scale step
  have hbelow : value < (below + 1) * step ∧ (below + 1) * step ≤ value + step := by
    have hdiv : step * below + value % step = value := Nat.div_add_mod value step
    have hmod : value % step < step := Nat.mod_lt value hpos
    rw [Nat.add_mul, Nat.one_mul, Nat.mul_comm below]
    omega
  -- The grid point above the number is inside, whether the ends belong to the interval or not.
  have hhit : highHit = true := by
    have hmiddle : i.low * scale ≤ value := Nat.mul_le_mul_right scale hlow
    have hend : i.high * scale = value + 2 * scale := by
      rw [hhigh, Nat.add_mul]
    have hstrict : i.low * scale < (below + 1) * step ∧ (below + 1) * step < i.high * scale := by
      omega
    change i.holds scale ((below + 1) * step) = true
    rw [Interval.holds]
    split
    · simpa using ⟨hstrict.1.le, hstrict.2.le⟩
    · simpa using hstrict
  rw [hhit, Bool.and_true]
  split
  · split <;> rfl
  · rfl

end Grid

/-! ## The search -/

theorem contains_of_searchGrids {i : Interval} {quarter k : Int} {steps : Nat} {d : Decimal}
    (h : searchGrids i quarter k steps = some d) : i.Contains quarter d.value := by
  induction steps generalizing k with
  | zero => cases h
  | succ steps ih =>
    rw [searchGrids] at h
    split at h
    · next digits hdigits =>
      cases h
      exact contains_of_onGrid? hdigits
    · exact ih h

/-- The search finds digits when any of its grids meets the interval. -/
theorem isSome_searchGrids {i : Interval} {quarter k : Int} {steps count : Nat}
    (hcount : count < steps) (h : (onGrid? i quarter (k - count)).isSome = true) :
    (searchGrids i quarter k steps).isSome = true := by
  induction steps generalizing k count with
  | zero => omega
  | succ steps ih =>
    rw [searchGrids]
    split
    · rfl
    · next hnone =>
      cases count with
      | zero =>
        rw [Nat.cast_zero, sub_zero, hnone] at h
        cases h
      | succ count =>
        refine @ih (k - 1) count (Nat.lt_of_succ_lt_succ hcount) ?_
        rwa [sub_sub, add_comm, ← Nat.cast_succ]

/-! ## The finest grid -/

/-- A power of ten is below a power of two by `10 ^ 3 < 2 ^ 10` and `2 ^ 93 < 10 ^ 28`. -/
theorem ten_zpow_lt_two_zpow {k n : Int} (hpos : 0 ≤ n → 10 * k < 3 * n)
    (hneg : n < 0 → 93 * k ≤ 28 * n) : (10 : ℚ) ^ k < 2 ^ n := by
  by_cases hn : 0 ≤ n
  · refine lt_of_pow_lt_pow_left₀ 10 (by positivity) ?_
    calc ((10 : ℚ) ^ k) ^ 10 = 10 ^ (10 * k) := by rw [← zpow_natCast, ← zpow_mul, mul_comm k]; rfl
      _ < 10 ^ (3 * n) := zpow_lt_zpow_right₀ (by norm_num) (hpos hn)
      _ = (10 ^ 3) ^ n := by rw [zpow_mul]; rfl
      _ ≤ (2 ^ 10) ^ n := zpow_le_zpow_left₀ hn (by norm_num) (by norm_num)
      _ = (2 ^ n) ^ 10 := by rw [← zpow_natCast, ← zpow_natCast, ← zpow_mul, ← zpow_mul, mul_comm]
  · obtain ⟨m, hm⟩ := Int.eq_ofNat_of_zero_le (show 0 ≤ -n by omega)
    obtain rfl : n = -(m : Int) := by omega
    refine lt_of_pow_lt_pow_left₀ 93 (by positivity) ?_
    calc ((10 : ℚ) ^ k) ^ 93 = 10 ^ (93 * k) := by rw [← zpow_natCast, ← zpow_mul, mul_comm k]; rfl
      _ ≤ 10 ^ (28 * -(m : Int)) := zpow_le_zpow_right₀ (by norm_num) (hneg (by omega))
      _ = ((10 ^ 28) ^ m)⁻¹ := by rw [zpow_mul, zpow_neg, zpow_natCast]; rfl
      _ < ((2 ^ 93) ^ m)⁻¹ :=
        inv_strictAnti₀ (by positivity) (pow_lt_pow_left₀ (by norm_num) (by norm_num) (by omega))
      _ = (2 ^ (-(m : Int))) ^ 93 := by
        rw [zpow_neg, zpow_natCast, inv_pow, ← pow_mul, ← pow_mul, mul_comm]

variable {x : Binary64}

theorem significand_pos (h : x.isZero = false) : 0 < x.significand := by
  refine Nat.pos_of_ne_zero fun hzero => ?_
  simp [isZero, hzero] at h

/-- The finest grid of the search is finer than half of the last place. -/
theorem ten_zpow_finest_lt (h : x.isZero = false) :
    (10 : ℚ) ^ (x.decimalExponentBound - (19 : Nat)) < 2 * 2 ^ (x.exponent - 2) := by
  obtain ⟨hlt, hlow, hhigh, -⟩ := x.canonical
  have hlog : x.significand.log2 < 53 := (Nat.log2_lt (significand_pos h).ne').2 hlt
  have hexponent : (2 : ℚ) * 2 ^ (x.exponent - 2) = 2 ^ (x.exponent - 1) := by
    rw [← zpow_one_add₀ (by norm_num)]
    congr 1
    omega
  rw [hexponent]
  have hbound : x.decimalExponentBound =
      ((x.significand.log2 : Int) + x.exponent + 1) * 30103 / 100000 + 1 := by
    rw [decimalExponentBound, Int.fdiv_eq_ediv_of_nonneg _ (by decide)]
  refine ten_zpow_lt_two_zpow (fun hpos => ?_) (fun hneg => ?_)
  · omega
  · omega

/-- The digits of a number are in the interval of reals that round to it. -/
theorem contains_value_shortest (h : x.isZero = false) :
    x.interval.Contains (x.exponent - 2) x.shortest.value := by
  have hpos := significand_pos h
  have hlow : x.interval.low ≤ x.interval.middle := Nat.sub_le _ _
  have hgrid := isSome_onGrid? hlow rfl (ten_zpow_finest_lt h)
  have hsome := isSome_searchGrids (show 19 < 20 by decide) hgrid
  obtain ⟨d, hd⟩ := Option.isSome_iff_exists.1 hsome
  rw [shortest, h, if_neg Bool.false_ne_true, hd, Option.getD_some]
  exact contains_of_searchGrids hd

/-! ## Thresholds -/

/-- `significand · 2 ^ exponent` is the one number nearest to a threshold, and no power of two. -/
structure Nearest (significand : Nat) (exponent : Int) (threshold : ℚ) : Prop where
  /-- The exponent is one of the exponents of numbers. -/
  exponent_le : -1074 ≤ exponent
  /-- The significand is above the least one. -/
  lower : twoTo 52 < significand
  /-- The significand has no more bits than there are. -/
  upper : significand < twoTo 53
  /-- The threshold is above the lower end of the interval. -/
  low_lt : (4 * significand - 2) * 2 ^ (exponent - 2) < threshold
  /-- The threshold is below the upper end. -/
  lt_high : threshold < (4 * significand + 2) * 2 ^ (exponent - 2)

theorem four_mul_le_low (x : Binary64) : 4 * x.significand ≤ x.interval.low + 2 := by
  simp only [interval]
  split <;> omega

/-- Above the least exponent a significand has all its bits, and its interval begins near it. -/
theorem le_low (h : -1074 < x.exponent) : 4 * twoTo 52 ≤ x.interval.low + 1 := by
  obtain ⟨-, -, -, hbits⟩ := x.canonical
  have hle : twoTo 52 ≤ x.significand := hbits.resolve_right h.ne'
  simp only [interval]
  split <;> omega

theorem two_mul_zpow_le {m n : Int} (h : m < n) : (2 : ℚ) * 2 ^ (m - 2) ≤ 2 ^ (n - 2) := by
  rw [← zpow_one_add₀ (by norm_num)]
  exact zpow_le_zpow_right₀ (by norm_num) (by omega)

theorem contains_magnitude (x : Binary64) :
    x.interval.Contains (x.exponent - 2) x.magnitude := by
  have hquarters : x.magnitude = 4 * x.significand * 2 ^ (x.exponent - 2) := by
    rw [magnitude, zpow_sub₀ (by norm_num)]
    norm_num
    ring
  have hlow : x.interval.low ≤ 4 * x.significand := Nat.sub_le _ _
  have hhigh : 4 * x.significand ≤ x.interval.high := Nat.le_add_right _ _
  rw [hquarters]
  constructor
  · gcongr
    exact_mod_cast hlow
  · gcongr
    exact_mod_cast hhigh

namespace Nearest

variable {significand : Nat} {exponent : Int} {threshold r : ℚ}

theorem lt_of_lt (h : Nearest significand exponent threshold)
    (hless : x.exponent < exponent ∨ x.exponent = exponent ∧ x.significand < significand)
    (hr : x.interval.Contains (x.exponent - 2) r) : r < threshold := by
  have hhigh : (x.interval.high : ℚ) = 4 * x.significand + 2 := by
    simp only [interval]
    push_cast
    rfl
  refine (hr.le_high.trans ?_).trans_lt h.low_lt
  rw [hhigh]
  rcases hless with hexponent | ⟨hexponent, hsignificand⟩
  · have hbits : (x.significand : ℚ) + 1 ≤ twoTo 53 := by exact_mod_cast x.canonical.1
    have hlower : (twoTo 52 : ℚ) + 1 ≤ significand := by exact_mod_cast h.lower
    rw [cast_twoTo] at hbits hlower
    calc (4 * x.significand + 2 : ℚ) * 2 ^ (x.exponent - 2)
        ≤ (2 ^ 55 - 2) * 2 ^ (x.exponent - 2) := by gcongr; linarith
      _ = (2 ^ 54 - 1) * (2 * 2 ^ (x.exponent - 2)) := by ring
      _ ≤ (2 ^ 54 - 1) * 2 ^ (exponent - 2) :=
        mul_le_mul_of_nonneg_left (two_mul_zpow_le hexponent) (by norm_num)
      _ ≤ (4 * significand - 2) * 2 ^ (exponent - 2) :=
        mul_le_mul_of_nonneg_right (by linarith) (by positivity)
  · have hnext : (x.significand : ℚ) + 1 ≤ significand := by exact_mod_cast hsignificand
    rw [hexponent]
    gcongr
    linarith

theorem lt_of_gt (h : Nearest significand exponent threshold)
    (hgreater : exponent < x.exponent ∨ x.exponent = exponent ∧ significand < x.significand)
    (hr : x.interval.Contains (x.exponent - 2) r) : threshold < r := by
  refine h.lt_high.trans_le (le_trans ?_ hr.low_le)
  rcases hgreater with hexponent | ⟨hexponent, hsignificand⟩
  · have hbits : (4 * twoTo 52 : ℚ) ≤ x.interval.low + 1 := by
      exact_mod_cast le_low (h.exponent_le.trans_lt hexponent)
    have hupper : (significand : ℚ) + 1 ≤ twoTo 53 := by exact_mod_cast h.upper
    rw [cast_twoTo] at hbits hupper
    calc (4 * significand + 2 : ℚ) * 2 ^ (exponent - 2)
        ≤ (2 ^ 55 - 2) * 2 ^ (exponent - 2) := by gcongr; linarith
      _ = (2 ^ 54 - 1) * (2 * 2 ^ (exponent - 2)) := by ring
      _ ≤ (2 ^ 54 - 1) * 2 ^ (x.exponent - 2) :=
        mul_le_mul_of_nonneg_left (two_mul_zpow_le hexponent) (by norm_num)
      _ ≤ x.interval.low * 2 ^ (x.exponent - 2) := by gcongr; linarith
  · have hlow : (4 * x.significand : ℚ) ≤ x.interval.low + 2 := by
      exact_mod_cast four_mul_le_low x
    have hnext : (significand : ℚ) + 1 ≤ x.significand := by exact_mod_cast hsignificand
    rw [hexponent]
    gcongr
    linarith

end Nearest

/-- The digits of a number are below a threshold just when the number is, if that is so of the
number nearest to the threshold. -/
theorem value_shortest_lt_iff {significand : Nat} {exponent : Int} {threshold : ℚ}
    (h : Nearest significand exponent threshold) (hx : x.isZero = false)
    (hnearest : x.significand = significand → x.exponent = exponent →
      (x.shortest.value < threshold ↔ x.magnitude < threshold)) :
    x.shortest.value < threshold ↔ x.magnitude < threshold := by
  have hvalue := contains_value_shortest hx
  have hmagnitude := contains_magnitude x
  rcases Int.lt_trichotomy x.exponent exponent with hless | hsame | hgreater
  · exact iff_of_true (h.lt_of_lt (.inl hless) hvalue) (h.lt_of_lt (.inl hless) hmagnitude)
  · rcases Nat.lt_trichotomy x.significand significand with hless | hequal | hgreater
    · exact iff_of_true (h.lt_of_lt (.inr ⟨hsame, hless⟩) hvalue)
        (h.lt_of_lt (.inr ⟨hsame, hless⟩) hmagnitude)
    · exact hnearest hequal hsame
    · exact iff_of_false (h.lt_of_gt (.inr ⟨hsame, hgreater⟩) hvalue).not_gt
        (h.lt_of_gt (.inr ⟨hsame, hgreater⟩) hmagnitude).not_gt
  · exact iff_of_false (h.lt_of_gt (.inl hgreater) hvalue).not_gt
      (h.lt_of_gt (.inl hgreater) hmagnitude).not_gt

end TableFeed.Binary64
