import Mathlib.Data.List.TakeDrop
import Mathlib.Tactic.Ring
import TableFeed.Decimal
import TableFeed.Json.Reader
import TableFeed.Proofs.Base64

/-!
# Decimals are exact

`Decimal.chars` loses nothing.  Its digits are those of the unscaled number, with a point
before as many of them as the scale tells and a minus sign before a negative number, and there
is no zero at the front that could be left out (`isExact_chars`).  So it is a JSON number, and
no reader stops before its end (`numberText?_of_isExact`).

The unscaled number is the two's complement of the bytes: the one number of that many bits that
agrees with the bytes up to a multiple of their range (`isTwosComplement`).
-/

namespace TableFeed.Decimal

open Text

/-! ## Digits -/

theorem head?_natChars {n : Nat} (h : 0 < n) : (natChars n).head? ≠ some '0' := by
  induction n using Nat.strongRecOn with
  | ind n ih =>
    rw [natChars]
    by_cases hlt : n < 10
    · have hdigit : ∀ digit < 10, 0 < digit → digit.digitChar ≠ '0' := by decide
      rw [Nat.toDigits_of_lt_base hlt, List.head?_cons]
      exact fun heq => hdigit n hlt h (Option.some.inj heq)
    · have hrest := ih (n / 10) (by omega) (by omega)
      have hne : Nat.toDigits 10 (n / 10) ≠ [] := Nat.toDigits_ne_nil
      obtain ⟨c, others, hcons⟩ := List.exists_cons_of_ne_nil hne
      rw [natChars, hcons] at hrest
      rw [Nat.toDigits_of_base_le (by decide) (by omega), hcons]
      exact hrest

/-- The digits of `number / 10 ^ scale` before and after the point. -/
structure Spells (number scale : Nat) (whole fraction : List Char) : Prop where
  /-- There are only digits. -/
  digits : (whole ++ fraction).all Char.isDigit = true
  /-- At least one of them stands before the point. -/
  whole_ne_nil : whole ≠ []
  /-- No zero stands before another digit of the whole part. -/
  whole_zero : whole.head? = some '0' → whole = ['0']
  /-- As many digits as the scale stand after the point. -/
  length_fraction : fraction.length = scale
  /-- Without the point they write the number. -/
  value : digitsValue (whole ++ fraction) = number

/-- Digits write a scaled number without rounding: they have a point where the scale is not zero and
a minus sign where the number is negative. -/
def IsExact (n : Int) (scale : Nat) (digits : List Char) : Prop :=
  ∃ whole fraction, Spells n.natAbs scale whole fraction ∧
    digits = (if n < 0 then ['-'] else []) ++
      (whole ++ if scale = 0 then [] else '.' :: fraction)

theorem spells_natChars (n : Nat) : Spells n 0 (natChars n) [] where
  digits := by
    rw [List.append_nil]
    exact all_isDigit_natChars n
  whole_ne_nil := natChars_ne_nil n
  whole_zero h := by
    rcases Nat.eq_zero_or_pos n with rfl | hpos
    · rfl
    · exact absurd h (head?_natChars hpos)
  length_fraction := rfl
  value := by
    rw [List.append_nil]
    exact digitsValue_natChars n

theorem length_padZeros (width : Nat) (cs : List Char) :
    (padZeros width cs).length = max width cs.length := by
  simp only [padZeros, List.length_append, List.length_replicate]
  omega

theorem digitsValue_padZeros (width n : Nat) : digitsValue (padZeros width (natChars n)) = n := by
  have hdigits := digitsValue_natChars n
  rw [digitsValue] at hdigits
  rw [digitsValue, padZeros, Nat.ofDigitChars_append, Nat.ofDigitChars_replicate_zero,
    Nat.mul_zero, hdigits]

/-- Zeros before a number, up to one digit more than the scale, leave one digit before the point:
a zero that was put there, or the first digit of the number. -/
theorem spells_padZeros (n : Nat) {scale : Nat} (h : 0 < scale) {padded : List Char}
    (hpadded : padded = padZeros (scale + 1) (natChars n)) :
    Spells n scale (padded.take (padded.length - scale))
      (padded.drop (padded.length - scale)) := by
  have hlength : padded.length = max (scale + 1) (natChars n).length := by
    rw [hpadded, length_padZeros]
  refine ⟨?_, ?_, fun hzero => ?_, ?_, ?_⟩
  · rw [List.take_append_drop, hpadded, padZeros, List.all_append, all_isDigit_natChars,
      Bool.and_true]
    refine List.all_eq_true.2 fun c hc => ?_
    rw [List.eq_of_mem_replicate hc]
    decide
  · refine List.ne_nil_of_length_pos ?_
    rw [List.length_take]
    omega
  · by_cases hshort : (natChars n).length ≤ scale
    · have hone : padded.length - scale = 1 := by omega
      have hzeros : scale + 1 - (natChars n).length = scale - (natChars n).length + 1 := by omega
      rw [hone, hpadded, padZeros, hzeros, List.replicate_succ]
      rfl
    · -- Nothing was put before the number, so it is not zero.
      have hnone : scale + 1 - (natChars n).length = 0 := by omega
      have hsame : padded = natChars n := by
        rw [hpadded, padZeros, hnone]
        rfl
      have hpos : 0 < n := by
        rcases Nat.eq_zero_or_pos n with rfl | hpos
        · exact absurd (show 1 ≤ scale from h) hshort
        · exact hpos
      have htake : padded.length - scale ≠ 0 := by omega
      rw [List.head?_take, if_neg htake, hsame] at hzero
      exact absurd hzero (head?_natChars hpos)
  · rw [List.length_drop]
    omega
  · rw [List.take_append_drop, hpadded, digitsValue_padZeros]

theorem isExact_chars (n : Int) (scale : Nat) : IsExact n scale (chars n scale) := by
  unfold chars
  by_cases hscale : scale = 0
  · subst hscale
    exact ⟨natChars n.natAbs, [], spells_natChars n.natAbs, by simp⟩
  · refine ⟨_, _, spells_padZeros n.natAbs (by omega) rfl, ?_⟩
    simp only [if_neg hscale]

/-! ## Numbers -/

theorem span_isDigit_append {digits : List Char} (h : ∀ c ∈ digits, c.isDigit = true)
    {rest : List Char} (hrest : rest.head?.all (fun c => !c.isDigit) = true) :
    (digits ++ rest).span Char.isDigit = (digits, rest) := by
  have hnone : rest.takeWhile Char.isDigit = [] ∧ rest.dropWhile Char.isDigit = rest := by
    cases rest with
    | nil => exact ⟨rfl, rfl⟩
    | cons c rest =>
      have hc : c.isDigit = false := by simpa using hrest
      simp [hc]
  rw [List.span_eq_takeWhile_dropWhile, List.takeWhile_append_of_pos h,
    List.dropWhile_append_of_pos h, hnone.1, hnone.2, List.append_nil]

theorem whole?_of_spells {number scale : Nat} {whole fraction rest : List Char}
    (h : Spells number scale whole fraction) (hrest : rest.head?.all (fun c => !c.isDigit) = true) :
    Json.Reader.whole? (whole ++ rest) = some (whole, rest) := by
  have hdigits : ∀ c ∈ whole, c.isDigit = true := fun c hc =>
    List.all_eq_true.1 h.digits c (List.mem_append_left _ hc)
  rw [Json.Reader.whole?, span_isDigit_append hdigits hrest]
  split
  · next heq => exact absurd (congrArg Prod.fst heq) h.whole_ne_nil
  · next heq =>
    cases heq
    cases h.whole_zero rfl
  · next heq =>
    cases heq
    rfl

theorem fraction?_of_spells {number scale : Nat} {whole fraction : List Char}
    (h : Spells number scale whole fraction) (hscale : scale ≠ 0) :
    Json.Reader.fraction? ('.' :: fraction) = some (some fraction, []) := by
  have hdigits : ∀ c ∈ fraction, c.isDigit = true := fun c hc =>
    List.all_eq_true.1 h.digits c (List.mem_append_right _ hc)
  have hspan : fraction.span Char.isDigit = (fraction, []) := by
    rw [← span_isDigit_append hdigits rfl, List.append_nil]
  rw [Json.Reader.fraction?, hspan]
  split
  · next heq =>
    have hlength := h.length_fraction
    cases congrArg Prod.fst heq
    exact absurd hlength.symm hscale
  · next heq =>
    cases heq
    rfl

/-- The parts of a scaled number with digits before and after the point. -/
def parts (n : Int) (scale : Nat) (whole fraction : List Char) : Json.Reader.NumberText :=
  ⟨decide (n < 0), whole, if scale = 0 then none else some fraction, none⟩

/-- A sign, digits and a point between them are one JSON number, with nothing left over. -/
theorem numberText?_of_spells {n : Int} {scale : Nat} {whole fraction : List Char}
    (h : Spells n.natAbs scale whole fraction) :
    Json.Reader.numberText? ((if n < 0 then ['-'] else []) ++
        (whole ++ if scale = 0 then [] else '.' :: fraction)) =
      some (parts n scale whole fraction, []) := by
  generalize htail : (if scale = 0 then [] else '.' :: fraction) = tail
  have hfraction : Json.Reader.fraction? tail =
      some (if scale = 0 then none else some fraction, []) := by
    by_cases hscale : scale = 0
    · rw [if_pos hscale] at htail ⊢
      exact htail ▸ rfl
    · rw [if_neg hscale] at htail ⊢
      exact htail ▸ fraction?_of_spells h hscale
  have hpoint : tail.head?.all (fun c => !c.isDigit) = true := by
    rw [← htail]
    split
    · rfl
    · rfl
  have hwhole := whole?_of_spells h hpoint
  by_cases hneg : n < 0
  · rw [parts, decide_eq_true hneg]
    simp only [if_pos hneg, List.singleton_append, Json.Reader.numberText?, hwhole, hfraction,
      Option.bind_eq_bind, Option.bind_some]
    rfl
  · have hminus : ∀ rest, whole ++ tail ≠ '-' :: rest := by
      intro rest heq
      obtain ⟨c, others, rfl⟩ := List.exists_cons_of_ne_nil h.whole_ne_nil
      cases heq
      have hdigit := List.all_eq_true.1 h.digits '-' (by simp)
      cases hdigit
    rw [parts, decide_eq_false hneg, if_neg hneg, List.nil_append, Json.Reader.numberText?]
    · simp only [hwhole, hfraction, Option.bind_eq_bind, Option.bind_some]
      rfl
    · exact hminus

/-- Digits that are exact are one JSON number from the first to the last. -/
theorem numberText?_of_isExact {n : Int} {scale : Nat} {digits : List Char}
    (h : IsExact n scale digits) : ∃ t, Json.Reader.numberText? digits = some (t, []) := by
  obtain ⟨whole, fraction, hspells, rfl⟩ := h
  exact ⟨_, numberText?_of_spells hspells⟩

/-! ## The unscaled number -/

theorem foldl_bytes (bytes : List UInt8) (start : Nat) :
    bytes.foldl (fun value b => value * 256 + b.toNat) start =
      start * 256 ^ bytes.length + unsignedValue bytes := by
  induction bytes generalizing start with
  | nil => simp [unsignedValue]
  | cons b rest ih =>
    rw [unsignedValue, List.foldl_cons, List.foldl_cons, ih, ih, List.length_cons, Nat.pow_succ]
    ring

theorem unsignedValue_cons (b : UInt8) (rest : List UInt8) :
    unsignedValue (b :: rest) = b.toNat * 256 ^ rest.length + unsignedValue rest := by
  rw [unsignedValue, List.foldl_cons, foldl_bytes, Nat.zero_mul, Nat.zero_add]

theorem unsignedValue_lt (bytes : List UInt8) : unsignedValue bytes < 256 ^ bytes.length := by
  induction bytes with
  | nil => simp [unsignedValue]
  | cons b rest ih =>
    have hb : b.toNat * 256 ^ rest.length ≤ 255 * 256 ^ rest.length :=
      Nat.mul_le_mul_right _ (Nat.le_of_lt_succ (UInt8.toNat_lt b))
    rw [unsignedValue_cons, List.length_cons, Nat.pow_succ]
    omega

/-- A number of as many bits as bytes hold that agrees with them up to a multiple of their range. -/
structure IsTwosComplement (bytes : List UInt8) (n : Int) : Prop where
  /-- The number agrees with the bytes. -/
  emod : n % (256 ^ bytes.length : Nat) = unsignedValue bytes
  /-- The number is not below the range. -/
  lower : -(256 ^ bytes.length : Nat) ≤ 2 * n
  /-- The number is not above the range. -/
  upper : 2 * n < (256 ^ bytes.length : Nat)

theorem isNegative_iff (bytes : List UInt8) :
    isNegative bytes = true ↔ 256 ^ bytes.length ≤ 2 * unsignedValue bytes := by
  cases bytes with
  | nil => simp [isNegative, unsignedValue]
  | cons b rest =>
    have hrest := unsignedValue_lt rest
    have hbit : isNegative (b :: rest) = true ↔ 128 ≤ b.toNat := by
      simp [isNegative, UInt8.le_iff_toNat_le]
    rw [hbit, unsignedValue_cons, List.length_cons, Nat.pow_succ]
    constructor
    · intro h
      have hb : 128 * 256 ^ rest.length ≤ b.toNat * 256 ^ rest.length := Nat.mul_le_mul_right _ h
      omega
    · intro h
      by_contra hlt
      have hb : b.toNat * 256 ^ rest.length ≤ 127 * 256 ^ rest.length :=
        Nat.mul_le_mul_right _ (by omega)
      omega

/-- The range of bytes. -/
theorem twoTo_bits (count : Nat) : twoTo (8 * count) = 256 ^ count := by
  rw [twoTo, Nat.pow_eq, Nat.pow_mul]

theorem isTwosComplement (bytes : List UInt8) : IsTwosComplement bytes (twosComplement bytes) := by
  have hlt := unsignedValue_lt bytes
  unfold twosComplement
  rw [twoTo_bits]
  split
  · next hneg =>
    have hhalf := (isNegative_iff bytes).1 hneg
    refine ⟨?_, by omega, by omega⟩
    rw [Int.sub_emod_right]
    exact Int.emod_eq_of_lt (by omega) (by omega)
  · next hneg =>
    have hhalf : ¬ 256 ^ bytes.length ≤ 2 * unsignedValue bytes := fun h =>
      hneg ((isNegative_iff bytes).2 h)
    refine ⟨Int.emod_eq_of_lt (by omega) (by omega), by omega, by omega⟩

/-! ## Decoding -/

/-- A text is the base64 of bytes, and no more of them than an unscaled number can have. -/
structure Encodes (text : String) (bytes : List UInt8) : Prop where
  /-- The text is the encoding of the bytes. -/
  encoded : Text.Utf8.encode text = Base64.encode bytes
  /-- There are not too many of them. -/
  length_le : bytes.length ≤ maxBytes

theorem unscaled_eq_ok_iff {text : String} {n : Int} : unscaled text = .ok n ↔
    ∃ bytes, Encodes text bytes ∧ n = twosComplement bytes := by
  rw [unscaled]
  constructor
  · intro h
    split at h
    · cases h
    · next bytes hbytes =>
      split at h
      · cases h
      · next hlength =>
        cases h
        exact ⟨bytes, ⟨Base64.decode_eq_ok_iff.1 hbytes, Nat.not_lt.1 hlength⟩, rfl⟩
  · rintro ⟨bytes, hencodes, rfl⟩
    rw [Base64.decode_eq_ok_iff.2 hencodes.encoded]
    exact if_neg (Nat.not_lt.2 hencodes.length_le)

/-- A text is decoded just when the scale is not too large and the text encodes a number. -/
theorem decode_string_eq_ok_iff {text : String} {scale : Nat} {digits : List Char} :
    decode (.string text) scale = .ok digits ↔ scale ≤ maxScale ∧
      ∃ bytes, Encodes text bytes ∧ digits = chars (twosComplement bytes) scale := by
  rw [decode]
  by_cases hscale : maxScale < scale
  · simp [hscale, Nat.not_le.2 hscale]
  · rw [if_neg hscale, map_eq_ok_iff]
    constructor
    · rintro ⟨n, hn, rfl⟩
      obtain ⟨bytes, hencodes, rfl⟩ := unscaled_eq_ok_iff.1 hn
      exact ⟨Nat.not_lt.1 hscale, bytes, hencodes, rfl⟩
    · rintro ⟨-, bytes, hencodes, rfl⟩
      exact ⟨_, unscaled_eq_ok_iff.2 ⟨bytes, hencodes, rfl⟩, rfl⟩

end TableFeed.Decimal
