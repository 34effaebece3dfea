import TableFeed.Proofs.Except
import TableFeed.Proofs.Number.Plain
import TableFeed.ValueType.Scaled

/-!
# Decimals in rows

A decimal that arrives as text is written plainly, and so is a whole number.  A number that is
neither is written as JSON numbers are, so a very large or very small one has an exponent.
`ValueType.isPlain_decimal_iff` says so of the texts that are decoded and of those in rows.
-/

namespace TableFeed

/-- A value that is a binary64 number is zero or lies where such numbers are written plainly. -/
def InPlainRange (value : Json) : Prop :=
  ∀ x : Binary64, value = .number (.real x) → x.isZero = true ∨
    (10 : ℚ) ^ (-5 : Int) ≤ x.magnitude ∧ x.magnitude < 10 ^ (16 : Int)

theorem inPlainRange_of_ne {value : Json} (h : ∀ x, value ≠ .number (.real x)) :
    InPlainRange value :=
  fun x hx => absurd hx (h x)

namespace Decimal

theorem isPlain_decode_iff {value : Json} {scale : Nat} {digits : List Char}
    (h : decode value scale = .ok digits) : IsPlain digits ↔ InPlainRange value := by
  unfold decode at h
  split at h
  · cases h
  · split at h
    · next n =>
      cases h
      cases n with
      | whole n => exact iff_of_true (isPlain_intChars n.value) (inPlainRange_of_ne (by simp))
      | real x =>
        rw [Number.chars, Binary64.isPlain_chars_iff]
        constructor
        · rintro hrange y hy
          cases hy
          exact hrange
        · exact fun hrange => hrange x rfl
    · obtain ⟨n, -, rfl⟩ := map_eq_ok_iff.1 h
      exact iff_of_true (isPlain_decimalChars n scale) (inPlainRange_of_ne (by simp))
    · cases h

/-- The text of ten to the sixteenth has an exponent. -/
theorem exists_decode_not_isPlain :
    ∃ digits, decode (.number (.real ⟨false, 5000000000000000, 1, by decide⟩)) 0 = .ok digits ∧
      ¬ IsPlain digits := by
  refine ⟨['1', 'e', '+', '1', '6'], ?_, not_isPlain_of_mem (by decide)⟩
  decide +kernel

end Decimal

namespace ValueType

variable {s : Schema} {value converted : Json} {text : String}

/-- A decimal that was converted is in the row as it is. -/
theorem isPlain_of_decimalText {type : ValueType} (htype : type.isNumber = false) {scale : Nat}
    (h : decimalText value scale = .ok converted) (hrow : type.rowValue converted = .string text) :
    IsPlain text.toList ↔ InPlainRange value := by
  obtain ⟨digits, hdigits, rfl⟩ := map_eq_ok_iff.1 h
  rw [rowValue, if_neg (ne_true_of_eq_false htype)] at hrow
  rw [← Json.string.inj hrow, String.toList_ofList]
  exact Decimal.isPlain_decode_iff hdigits

theorem nullOr_of_ne_null {convert : Json → Except TypeError Json} (h : value ≠ .null) :
    nullOr convert value = convert value := by
  cases value with
  | null => exact absurd rfl h
  | _ => rfl

theorem isPlain_of_decimal (h : decimal.convert s value = .ok converted)
    (hrow : decimal.rowValue converted = .string text) :
    IsPlain text.toList ↔ InPlainRange value := by
  by_cases hnull : value = .null
  · subst hnull
    cases h
    cases hrow
  · simp only [decimal, nullOr_of_ne_null hnull] at h
    obtain ⟨scale, -, hdecoded⟩ := exists_of_bind_eq_ok (eq_ok_of_mapError h)
    exact isPlain_of_decimalText rfl hdecoded hrow

theorem isPlain_of_variableScaleDecimal (h : variableScaleDecimal.convert s value = .ok converted)
    (hrow : variableScaleDecimal.rowValue converted = .string text) :
    ∃ members unscaled, value = .object members ∧ members.lookup "value" = some unscaled ∧
      (IsPlain text.toList ↔ InPlainRange unscaled) := by
  by_cases hnull : value = .null
  · subst hnull
    cases h
    cases hrow
  · simp only [variableScaleDecimal, nullOr_of_ne_null hnull] at h
    split at h
    · next members =>
      split at h
      · cases h
      · split at h
        · cases h
        · split at h
          · cases h
          · next unscaled hmember =>
            exact ⟨members, unscaled, rfl, hmember,
              isPlain_of_decimalText rfl (eq_ok_of_mapError h) hrow⟩
    · cases h

/-- The text of a decimal is plain, decoded or in a row, unless it is that of a binary64 number
outside the range where such numbers are written plainly. -/
theorem isPlain_decimal_iff (value : Json) :
    (∀ scale digits, Decimal.decode value scale = .ok digits →
      (IsPlain digits ↔ InPlainRange value)) ∧
    (∀ s converted text, decimal.convert s value = .ok converted →
      decimal.rowValue converted = .string text → (IsPlain text.toList ↔ InPlainRange value)) ∧
    ∀ s converted text, variableScaleDecimal.convert s value = .ok converted →
      variableScaleDecimal.rowValue converted = .string text →
        ∃ members unscaled, value = .object members ∧ members.lookup "value" = some unscaled ∧
          (IsPlain text.toList ↔ InPlainRange unscaled) :=
  ⟨fun _ _ h => Decimal.isPlain_decode_iff h, fun _ _ _ h hrow => isPlain_of_decimal h hrow,
    fun _ _ _ h hrow => isPlain_of_variableScaleDecimal h hrow⟩

/-- The largest number that is still written plainly. -/
theorem isPlain_decimal_iff_largest :
    Decimal.decode (.number (.real ⟨false, 4999999999999999, 1, by decide⟩)) 0 =
        .ok "9999999999999998.0".toList ∧
      IsPlain "9999999999999998.0".toList := by
  have hdecode : Decimal.decode (.number (.real ⟨false, 4999999999999999, 1, by decide⟩)) 0 =
      .ok "9999999999999998.0".toList := by
    decide +kernel
  have hrange : InPlainRange (.number (.real ⟨false, 4999999999999999, 1, by decide⟩)) := by
    rintro x hx
    obtain rfl := Number.real.inj (Json.number.inj hx)
    refine .inr ⟨?_, ?_⟩
    · norm_num [Binary64.magnitude]
    · norm_num [Binary64.magnitude]
  exact ⟨hdecode, ((isPlain_decimal_iff _).1 0 _ hdecode).2 hrange⟩

end ValueType

end TableFeed
