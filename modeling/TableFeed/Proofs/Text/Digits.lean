import Mathlib.Data.List.Induction
import Mathlib.Data.Nat.Digits.Defs
import TableFeed.Number.Power
import TableFeed.Proofs.Decimal

/-!
# Digits of a fixed number

`Text.fixedDigits width n` writes a number below `10 ^ width` with exactly `width` digits
(`length_fixedDigits`), and every text of that many digits is what it writes of some number
(`fixedDigits_digitsValue`).

Unsigned numbers are read with an optional plus sign and below a limit
(`readUnsigned_eq_some_iff`).
-/

namespace TableFeed.Text

theorem length_natChars_le_iff {n width : Nat} (h : 0 < width) :
    (natChars n).length ≤ width ↔ n < tenTo width :=
  Nat.length_toDigits_le_iff (by decide) h

theorem length_fixedDigits {n width : Nat} (hwidth : 0 < width) (h : n < tenTo width) :
    (fixedDigits width n).length = width := by
  have hle := (length_natChars_le_iff hwidth).2 h
  rw [fixedDigits, Decimal.length_padZeros]
  omega

theorem fixedDigits_ne_nil (width n : Nat) : fixedDigits width n ≠ [] := by
  rw [fixedDigits, padZeros]
  exact List.append_ne_nil_of_right_ne_nil _ (natChars_ne_nil n)

theorem all_isDigit_fixedDigits (width n : Nat) :
    (fixedDigits width n).all Char.isDigit = true := by
  rw [fixedDigits, padZeros, List.all_append, all_isDigit_natChars, Bool.and_true]
  refine List.all_eq_true.2 fun c hc => ?_
  rw [List.eq_of_mem_replicate hc]
  decide

theorem digitsValue_fixedDigits (width n : Nat) : digitsValue (fixedDigits width n) = n :=
  Decimal.digitsValue_padZeros width n

/-- One more digit of a number is written behind the others. -/
theorem fixedDigits_succ {width : Nat} (hwidth : 0 < width) (n : Nat) {digit : Nat}
    (hdigit : digit < 10) :
    fixedDigits (width + 1) (n * 10 + digit) = fixedDigits width n ++ [digit.digitChar] := by
  rcases Nat.eq_zero_or_pos n with rfl | hpos
  · have hone : natChars (0 * 10 + digit) = [digit.digitChar] := by
      rw [natChars, Nat.zero_mul, Nat.zero_add, Nat.toDigits_of_lt_base hdigit]
    have hzero : natChars 0 = ['0'] := rfl
    have hzeros : List.replicate (width - 1) '0' ++ ['0'] = List.replicate width '0' := by
      rw [← List.replicate_succ', Nat.sub_add_cancel hwidth]
    rw [fixedDigits, fixedDigits, padZeros, padZeros, hone, hzero, List.length_singleton,
      List.length_singleton, hzeros, Nat.add_sub_cancel]
  · have hmore : natChars (n * 10 + digit) = natChars n ++ [digit.digitChar] := by
      have hrest : (n * 10 + digit) / 10 = n ∧ (n * 10 + digit) % 10 = digit := by omega
      rw [natChars, Nat.toDigits_of_base_le (by decide) (by omega), hrest.1, hrest.2]
      rfl
    rw [fixedDigits, fixedDigits, padZeros, padZeros, hmore, List.length_append,
      List.length_singleton, Nat.add_sub_add_right, List.append_assoc]

theorem digitsValue_concat (digits : List Char) (c : Char) :
    digitsValue (digits ++ [c]) = digitsValue digits * 10 + (c.toNat - '0'.toNat) := by
  rw [digitsValue, Nat.ofDigitChars_append, Nat.ofDigitChars_cons, Nat.mul_comm]
  rfl

theorem toNat_of_isDigit {c : Char} (h : c.isDigit = true) : 48 ≤ c.toNat ∧ c.toNat ≤ 57 := by
  simpa [Char.isDigit, UInt32.le_iff_toNat_le] using h

/-- A digit writes a number below ten. -/
theorem exists_digitChar {c : Char} (h : c.isDigit = true) :
    c.toNat - '0'.toNat < 10 ∧ (c.toNat - '0'.toNat).digitChar = c := by
  obtain ⟨hlow, hhigh⟩ := toNat_of_isDigit h
  have hzero : '0'.toNat = 48 := rfl
  have hlt : c.toNat - '0'.toNat < 10 := by omega
  refine ⟨hlt, Char.toNat_inj.1 ?_⟩
  rw [Nat.toNat_digitChar_of_lt_ten hlt]
  omega

theorem digitsValue_lt {digits : List Char} (h : digits.all Char.isDigit = true) :
    digitsValue digits < tenTo digits.length := by
  induction digits using List.reverseRecOn with
  | nil => decide
  | append_singleton digits c ih =>
    obtain ⟨hrest, hc⟩ : digits.all Char.isDigit = true ∧ c.isDigit = true := by simpa using h
    have hlt := (exists_digitChar hc).1
    have hbound := ih hrest
    rw [digitsValue_concat, List.length_append, List.length_singleton, tenTo_succ]
    omega

/-- Digits are what is written of the number that they write. -/
theorem fixedDigits_digitsValue {digits : List Char} (h : digits.all Char.isDigit = true)
    (hne : digits ≠ []) : fixedDigits digits.length (digitsValue digits) = digits := by
  induction digits using List.reverseRecOn with
  | nil => exact absurd rfl hne
  | append_singleton digits c ih =>
    obtain ⟨hrest, hc⟩ : digits.all Char.isDigit = true ∧ c.isDigit = true := by simpa using h
    obtain ⟨hlt, hchar⟩ := exists_digitChar hc
    rw [digitsValue_concat, List.length_append, List.length_singleton]
    by_cases hnil : digits = []
    · subst hnil
      have hzero : digitsValue [] = 0 := rfl
      rw [hzero, Nat.zero_mul, Nat.zero_add, List.length_nil, Nat.zero_add, fixedDigits, natChars,
        Nat.toDigits_of_lt_base hlt, hchar]
      rfl
    · rw [fixedDigits_succ (List.length_pos_iff.2 hnil) _ hlt, hchar, ih hrest hnil]

/-! ## Unsigned numbers -/

/-- A text writes an unsigned number: digits, at least one, with or without a plus sign. -/
def WritesUnsigned (text : String) (n : Nat) : Prop :=
  ∃ digits, (text.toList = digits ∨ text.toList = '+' :: digits) ∧ digits ≠ [] ∧
    digits.all Char.isDigit = true ∧ digitsValue digits = n

theorem readDigits_eq_some_iff {limit n : Nat} {cs : List Char} :
    readDigits limit cs = some n ↔
      (cs ≠ [] ∧ cs.all Char.isDigit = true ∧ digitsValue cs = n) ∧ n < limit := by
  rw [readDigits, Option.ite_none_right_eq_some]
  constructor
  · rintro ⟨⟨hne, hdigits, hlt⟩, hvalue⟩
    cases hvalue
    exact ⟨⟨hne, hdigits, rfl⟩, hlt⟩
  · rintro ⟨⟨hne, hdigits, rfl⟩, hlt⟩
    exact ⟨⟨hne, hdigits, hlt⟩, rfl⟩

/-- What is read is what the text writes, below the limit. -/
theorem readUnsigned_eq_some_iff {limit n : Nat} {text : String} :
    readUnsigned limit text = some n ↔ WritesUnsigned text n ∧ n < limit := by
  rw [readUnsigned, WritesUnsigned]
  split
  · next cs hplus =>
    rw [readDigits_eq_some_iff, hplus]
    refine and_congr_left fun _ => ⟨fun h => ⟨cs, .inr rfl, h⟩, ?_⟩
    rintro ⟨digits, hdigits | hdigits, h⟩
    · -- A plus sign is no digit.
      rw [← hdigits] at h
      exact absurd h.2.1 (by simp)
    · cases hdigits
      exact h
  · next hplain =>
    rw [readDigits_eq_some_iff]
    refine and_congr_left fun _ => ⟨fun h => ⟨_, .inl rfl, h⟩, ?_⟩
    rintro ⟨digits, hdigits | hdigits, h⟩
    · rw [hdigits]
      exact h
    · exact absurd hdigits (hplain digits)

end TableFeed.Text
