import Mathlib.Data.Nat.Digits.Defs
import Mathlib.Data.Rat.Cast.Defs
import TableFeed.Proofs.Schema.Rendering
import TableFeed.Proofs.Text.Utf8

/-!
# Decimals as numbers

Every sequence of at most sixteen bytes is an unscaled number, and with every scale up to the
largest one it gives the text of one JSON number, whose value is the unscaled number over a power
of ten (`Decimal.decode_text`).  The number of the bytes is told by words of the library (`word`)
and the value of the text by its parts (`Json.Reader.NumberText.value`), so that neither rests on
how decimals are read or written here.
-/

namespace TableFeed

/-! ## Base64 texts -/

namespace Base64

/-- The base64 text of bytes, as characters. -/
def text (bytes : List UInt8) : String :=
  String.ofList ((encode bytes).map fun b => Char.ofNat b.toNat)

theorem symbol_lt (value : Nat) : (symbol value).toNat < 128 := by
  unfold symbol
  split_ifs
  · rw [UInt8.toNat_ofNat']
    omega
  · rw [UInt8.toNat_ofNat']
    omega
  · rw [UInt8.toNat_ofNat']
    omega
  · decide
  · decide

theorem encode_lt (bytes : List UInt8) : ∀ b ∈ encode bytes, b.toNat < 128 := by
  have hpad : pad.toNat < 128 := by decide
  fun_induction encode bytes with
  | case1 => exact List.forall_mem_nil _
  | case2 a => simp [symbol_lt, hpad]
  | case3 a b => simp [symbol_lt, hpad]
  | case4 a b c rest ih => simpa [symbol_lt] using ih

theorem utf8Encode_text (bytes : List UInt8) : Text.Utf8.encode (text bytes) = encode bytes := by
  rw [text, Text.Utf8.encode_ofList, List.flatMap_map]
  have hsame : ∀ b ∈ encode bytes, String.utf8EncodeChar (Char.ofNat b.toNat) = [b] := by
    intro b hb
    rw [Text.Utf8.utf8EncodeChar_ofNat (encode_lt bytes b hb), UInt8.ofNat_toNat]
  rw [List.flatMap_def, List.map_congr_left hsame, ← List.flatMap_def, List.flatMap_singleton']

end Base64

/-! ## Words -/

namespace Decimal

/-- The word that bytes are, most significant first. -/
def word (bytes : List UInt8) : BitVec (8 * bytes.length) :=
  .ofNat _ (Nat.ofDigits 256 (bytes.reverse.map UInt8.toNat))

theorem ofDigits_reverse (bytes : List UInt8) :
    Nat.ofDigits 256 (bytes.reverse.map UInt8.toNat) = unsignedValue bytes := by
  induction bytes with
  | nil => rfl
  | cons b rest ih =>
    rw [unsignedValue_cons, List.reverse_cons, List.map_append, Nat.ofDigits_append, ih,
      List.length_map, List.length_reverse, List.map_singleton, Nat.ofDigits_singleton]
    ring

/-- The two's complement of bytes is that of their word. -/
theorem toInt_word (bytes : List UInt8) : (word bytes).toInt = twosComplement bytes := by
  have hlt := unsignedValue_lt bytes
  have hrange : 2 ^ (8 * bytes.length) = 256 ^ bytes.length := by
    rw [Nat.pow_mul]
  have hsign := isNegative_iff bytes
  rw [word, ofDigits_reverse, BitVec.toInt_eq_toNat_cond, BitVec.toNat_ofNat, hrange,
    Nat.mod_eq_of_lt hlt, twosComplement, twoTo_bits]
  by_cases hneg : isNegative bytes = true
  · rw [if_neg (Nat.not_lt.2 (hsign.1 hneg)), if_pos hneg]
  · rw [if_pos (Nat.not_le.1 fun hle => hneg (hsign.2 hle)), if_neg hneg]

end Decimal

/-! ## Numbers -/

namespace Json.Reader.NumberText

/-- The exact value of a number: its digits without the point, over ten for each of them after the
point, and times ten for each unit of the exponent. -/
def value (t : NumberText) : ℚ :=
  let digits : ℚ := Text.digitsValue (t.whole ++ t.fraction.getD [])
  (if t.negative then -digits else digits) / 10 ^ (t.fraction.getD []).length *
    10 ^ t.exponent.getD 0

/-- Characters write `unscaled / 10 ^ scale` as a number with these parts, in plain digits. -/
structure Writes (t : NumberText) (cs : List Char) (unscaled : Int) (scale : Nat) : Prop where
  /-- The characters are the parts: a sign, digits and what stands after a point. -/
  chars : cs = (if t.negative then ['-'] else []) ++ (t.whole ++ t.fraction.elim [] ('.' :: ·))
  /-- There are only digits in the parts. -/
  digits : (t.whole ++ t.fraction.getD []).all Char.isDigit = true
  /-- At least one of them stands before the point. -/
  whole_ne_nil : t.whole ≠ []
  /-- No zero stands before another digit of the whole part. -/
  whole_zero : t.whole.head? = some '0' → t.whole = ['0']
  /-- As many digits as the scale stand after the point, and where that is none, no point. -/
  fraction : t.fraction.map List.length = if scale = 0 then none else some scale
  /-- There is no exponent. -/
  exponent : t.exponent = none
  /-- There is a minus sign just when the number is negative. -/
  negative : t.negative = true ↔ t.value < 0
  /-- The value is exact. -/
  value : t.value = unscaled / 10 ^ scale

end Json.Reader.NumberText

namespace Decimal

theorem writes_of_spells {n : Int} {scale : Nat} {whole fraction : List Char}
    (h : Spells n.natAbs scale whole fraction) :
    (parts n scale whole fraction).Writes
      ((if n < 0 then ['-'] else []) ++ (whole ++ if scale = 0 then [] else '.' :: fraction))
      n scale := by
  have hfraction : (parts n scale whole fraction).fraction.getD [] = fraction := by
    dsimp only [parts]
    split
    · next hscale => exact (List.eq_nil_of_length_eq_zero (h.length_fraction.trans hscale)).symm
    · rfl
  have hpoint : (parts n scale whole fraction).fraction.elim [] ('.' :: ·) =
      if scale = 0 then [] else '.' :: fraction := by
    dsimp only [parts]
    split
    · rfl
    · rfl
  have hsigned : (if n < 0 then -(n.natAbs : ℚ) else n.natAbs) = n := by
    rw [← Int.cast_natCast, ← Int.cast_neg]
    split
    · next hneg => rw [Int.ofNat_natAbs_of_nonpos hneg.le, neg_neg]
    · next hneg => rw [Int.natAbs_of_nonneg (not_lt.1 hneg)]
  have hvalue : (parts n scale whole fraction).value = n / 10 ^ scale := by
    rw [Json.Reader.NumberText.value, hfraction, h.length_fraction]
    simp only [parts, h.value, decide_eq_true_eq, hsigned, Option.getD_none, zpow_zero, mul_one]
  refine ⟨?_, ?_, h.whole_ne_nil, h.whole_zero, ?_, rfl, ?_, hvalue⟩
  · rw [hpoint]
    simp only [parts, decide_eq_true_eq]
  · rw [hfraction]
    exact h.digits
  · dsimp only [parts]
    split
    · rfl
    · exact congrArg some h.length_fraction
  · rw [hvalue, parts, decide_eq_true_eq, div_lt_iff₀ (by positivity), zero_mul, Int.cast_lt_zero]

/-- Every sequence of at most sixteen bytes is decoded with every scale up to 38.  The result is one
JSON number from its first character to its last: the two's complement of the bytes over a power of
ten, without rounding, with as many digits after the point as the scale tells, without an exponent
and without a zero that could be left out.  So rendering takes it as a number and never fails on it.
More bytes and larger scales are refused. -/
theorem decode_text (bytes : List UInt8) (scale : Nat) :
    (scale ≤ 38 → bytes.length ≤ 16 → ∃ digits t,
      decode (.string (Base64.text bytes)) scale = .ok digits ∧
      Json.Reader.numberText? digits = some (t, []) ∧
      t.Writes digits (word bytes).toInt scale ∧
      ∀ s : Schema, s.kind = .bytes → s.name = some logicalName → s.DeclaresScale scale →
        s.render (.string (Base64.text bytes)) = .ok (.decimal digits)) ∧
    (scale ≤ 38 → 16 < bytes.length →
      decode (.string (Base64.text bytes)) scale = .error (.tooManyBytes bytes.length)) ∧
    (38 < scale →
      decode (.string (Base64.text bytes)) scale = .error (.scaleTooLarge scale)) := by
  have hencoded := Base64.utf8Encode_text bytes
  refine ⟨fun hscale hlength => ?_, fun hscale hlength => ?_, fun hscale => if_pos hscale⟩
  · have hdecode := decode_string_eq_ok_iff.2 ⟨hscale, bytes, ⟨hencoded, hlength⟩, rfl⟩
    obtain ⟨whole, fraction, hspells, hdigits⟩ := isExact_chars (twosComplement bytes) scale
    have hnumber := numberText?_of_spells hspells
    rw [← hdigits] at hnumber
    refine ⟨_, _, hdecode, hnumber, ?_, ?_⟩
    · rw [toInt_word, hdigits]
      exact writes_of_spells hspells
    · intro s hkind hname hdeclared
      have hrendered := Schema.renderDecimal_of_decode hdeclared hdecode hnumber
      obtain ⟨kind, _, name, _, _, _, _, _, _, _, _⟩ := s
      cases hkind
      cases hname
      rw [Schema.render, if_pos ⟨rfl, rfl⟩, hrendered]
      rfl
  · have hlarge : ¬ maxScale < scale := Nat.not_lt.2 hscale
    have hunscaled : unscaled (Base64.text bytes) = .error (.tooManyBytes bytes.length) := by
      rw [unscaled, hencoded, Base64.decode_eq_ok_iff.2 rfl]
      exact if_pos hlength
    rw [decode, if_neg hlarge, hunscaled]
    rfl

/-- The least number of sixteen bytes, which has no positive counterpart of as many. -/
theorem decode_text_least :
    let digits := "-1.70141183460469231731687303715884105728".toList
    decode (.string (Base64.text (0x80 :: List.replicate 15 0))) 38 = .ok digits ∧
      ∃ t, Json.Reader.numberText? digits = some (t, []) ∧ t.value = -2 ^ 127 / 10 ^ 38 := by
  intro digits
  have hdecode : decode (.string (Base64.text (0x80 :: List.replicate 15 0))) 38 = .ok digits := by
    decide +kernel
  have hword : (word (0x80 :: List.replicate 15 0)).toInt = -2 ^ 127 := by decide +kernel
  obtain ⟨hexact, -, -⟩ := decode_text (0x80 :: List.replicate 15 0) 38
  obtain ⟨found, t, hfound, hnumber, hwrites, -⟩ := hexact (by decide) (by decide)
  have hsame : digits = found := Except.ok.inj (hdecode.symm.trans hfound)
  refine ⟨hdecode, t, hsame ▸ hnumber, ?_⟩
  rw [hwrites.value, hword]
  norm_num

end Decimal

end TableFeed
