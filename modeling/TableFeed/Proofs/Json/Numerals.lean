import TableFeed.Proofs.Json.Scalars
import TableFeed.Proofs.Number.Plain

/-!
# Texts of numbers are numerals

A reader takes the text of a number from the first character to the last
(`exists_numberText?_chars`), whether it has an exponent or not.  So what is read of a number that
stands before other characters ends where its text ends, even if it is another number
(`number?_chars_append`).
-/

namespace TableFeed

open Text

namespace Json.Reader

/-- What may stand after the digits of a number: nothing, or an exponent. -/
def IsExponent (tail : List Char) : Prop :=
  tail = [] ∨ ∃ sign digits, tail = 'e' :: sign :: digits ∧ (sign = '-' ∨ sign = '+') ∧
    digits ≠ [] ∧ digits.all Char.isDigit = true

variable {whole fraction tail : List Char}

theorem IsExponent.endsDigits (h : IsExponent tail) :
    tail.head?.all (fun c => !c.isDigit) = true := by
  obtain rfl | ⟨sign, digits, rfl, -⟩ := h
  · rfl
  · rfl

theorem IsExponent.ne_point (h : IsExponent tail) (rest : List Char) : tail ≠ '.' :: rest := by
  obtain rfl | ⟨sign, digits, rfl, -⟩ := h
  · nofun
  · simp

theorem span_digits {digits : List Char} (h : digits.all Char.isDigit = true)
    (htail : tail.head?.all (fun c => !c.isDigit) = true) :
    (digits ++ tail).span Char.isDigit = (digits, tail) :=
  Decimal.span_isDigit_append (List.all_eq_true.1 h) htail

theorem IsExponent.exists_exponent? (h : IsExponent tail) :
    ∃ exponent, exponent? tail = some (exponent, []) := by
  obtain rfl | ⟨sign, digits, rfl, hsign, hne, hdigits⟩ := h
  · exact ⟨none, rfl⟩
  · have hspan : (digits ++ []).span Char.isDigit = (digits, []) := span_digits hdigits rfl
    rw [List.append_nil] at hspan
    rw [exponent?_cons, if_pos (.inl rfl)]
    obtain rfl | rfl := hsign
    · rw [signedExponent?, exponentDigits?_eq, hspan, if_neg hne]
      exact ⟨_, rfl⟩
    · rw [signedExponent?, exponentDigits?_eq, hspan, if_neg hne]
      exact ⟨_, rfl⟩

/-- Digits, a point with more of them and an exponent, of which the last two may be missing, are one
number. -/
theorem exists_unsignedText? (negative : Bool) (hdigits : whole.all Char.isDigit = true)
    (hne : whole ≠ []) (hzero : whole.head? = some '0' → whole = ['0'])
    (hfraction : fraction.all Char.isDigit = true) (htail : IsExponent tail) :
    ∃ t, unsignedText? negative
      (whole ++ ((if fraction = [] then [] else '.' :: fraction) ++ tail)) = some (t, []) := by
  obtain ⟨exponent, hexponent⟩ := htail.exists_exponent?
  by_cases hnone : fraction = []
  · have hwhole : whole? (whole ++ tail) = some (whole, tail) :=
      whole?_eq_some_iff.2 ⟨span_digits hdigits htail.endsDigits, hne, hzero⟩
    rw [if_pos hnone, List.nil_append, unsignedText?, hwhole]
    simp only [Option.bind_eq_bind, Option.bind_some, fraction?_of_ne htail.ne_point, hexponent]
    exact ⟨_, rfl⟩
  · have hwhole : whole? (whole ++ '.' :: (fraction ++ tail)) =
        some (whole, '.' :: (fraction ++ tail)) :=
      whole?_eq_some_iff.2 ⟨span_digits hdigits rfl, hne, hzero⟩
    have hpoint : fraction? ('.' :: (fraction ++ tail)) = some (some fraction, tail) := by
      rw [fraction?_point, span_digits hfraction htail.endsDigits, if_neg hnone]
    rw [if_neg hnone, List.cons_append, unsignedText?, hwhole]
    simp only [Option.bind_eq_bind, Option.bind_some, hpoint, hexponent]
    exact ⟨_, rfl⟩

/-- A minus sign before a number is part of it. -/
theorem numberText?_signed {negative : Bool} {cs left : List Char} {t : NumberText}
    (h : unsignedText? negative cs = some (t, left)) :
    numberText? ((if negative then ['-'] else []) ++ cs) = some (t, left) := by
  cases negative with
  | true => exact h
  | false =>
    have hne : ∀ rest, cs ≠ '-' :: rest := by
      rintro rest rfl
      cases h
    exact (numberText?_of_ne hne).trans h

end Json.Reader

namespace Binary64

open Json.Reader

variable {n : Nat} {exponent : Int}

theorem exists_unsignedText?_plain (negative : Bool) (h : 0 < n ∨ exponent = 0) :
    ∃ t, unsignedText? negative (plainChars (natChars n) exponent) = some (t, []) := by
  rw [plainChars]
  split
  · next hpos =>
    have hdigits : (natChars n ++ List.replicate exponent.toNat '0').all Char.isDigit = true := by
      simp [all_isDigit_natChars]
    have hne := List.append_ne_nil_of_left_ne_nil (natChars_ne_nil n)
      (List.replicate exponent.toNat '0')
    have hpoint : ['0'].all Char.isDigit = true := rfl
    refine exists_unsignedText? negative hdigits hne ?_ hpoint (.inl rfl)
    intro hzero
    rw [List.head?_append_of_ne_nil _ (natChars_ne_nil n)] at hzero
    obtain hn | rfl := h
    · exact absurd hzero (Decimal.head?_natChars hn)
    · rw [Int.toNat_zero, List.replicate_zero, List.append_nil]
      exact (Decimal.spells_natChars n).whole_zero hzero
  · next hneg =>
    have hspells := Decimal.spells_padZeros n (show 0 < (-exponent).toNat by omega) rfl
    have hdigits := hspells.digits
    rw [List.all_append, Bool.and_eq_true] at hdigits
    have hfraction := List.ne_nil_of_length_pos
      (hspells.length_fraction.symm ▸ show 0 < (-exponent).toNat by omega)
    obtain ⟨t, ht⟩ := exists_unsignedText? negative hdigits.1 hspells.whole_ne_nil
      hspells.whole_zero hdigits.2 (.inl rfl)
    rw [if_neg hfraction, List.append_nil] at ht
    exact ⟨t, ht⟩

theorem exists_unsignedText?_scientific (negative : Bool) (n : Nat) (first : Int) :
    ∃ t, unsignedText? negative (scientificChars (natChars n) first) = some (t, []) := by
  have hexponent : IsExponent ('e' :: (if first < 0 then '-' else '+') :: natChars first.natAbs) :=
    .inr ⟨_, _, rfl, by split <;> simp, natChars_ne_nil _, all_isDigit_natChars _⟩
  have hall := all_isDigit_natChars n
  obtain ⟨d, rest, hcons⟩ := List.exists_cons_of_ne_nil (natChars_ne_nil n)
  rw [hcons, List.all_cons, Bool.and_eq_true] at hall
  have hzero : [d].head? = some '0' → [d] = ['0'] := by
    intro hd
    rw [Option.some.inj hd]
  have hdigit : [d].all Char.isDigit = true := by simp [hall.1]
  obtain ⟨t, ht⟩ := exists_unsignedText? negative hdigit (List.cons_ne_nil _ _) hzero hall.2
    hexponent
  rw [hcons]
  cases rest with
  | nil => exact ⟨t, ht⟩
  | cons next rest => exact ⟨t, ht⟩

/-- The text of a binary64 number is one number. -/
theorem exists_numberText?_chars (x : Binary64) : ∃ t, numberText? x.chars = some (t, []) := by
  obtain ⟨t, ht⟩ : ∃ t, unsignedText? x.negative (unsignedChars x.shortest) = some (t, []) := by
    rw [unsignedChars]
    split
    · refine exists_unsignedText?_plain x.negative ?_
      cases hzero : x.isZero with
      | true => exact .inr (by rw [shortest, hzero]; rfl)
      | false => exact .inl (digits_shortest_pos hzero)
    · exact exists_unsignedText?_scientific x.negative _ _
  exact ⟨t, numberText?_signed ht⟩

end Binary64

namespace Json.Reader

/-- The text of a number is one number. -/
theorem exists_numberText?_chars (n : Number) : ∃ t, numberText? n.chars = some (t, []) := by
  cases n with
  | whole n =>
    have hread := readsBack_whole n
    simp only [Number.ReadsBack, number?, Option.bind_eq_bind, Option.bind_eq_some_iff,
      Prod.exists] at hread
    obtain ⟨t, left, ht, _, -, hsome⟩ := hread
    cases hsome
    exact ⟨t, ht⟩
  | real x => exact x.exists_numberText?_chars

/-- Whether a character can open a number. -/
def opensNumber (c : Char) : Bool :=
  c = '-' || c.isDigit

theorem exists_of_numberText? {cs left : List Char} {t : NumberText}
    (h : numberText? cs = some (t, left)) : ∃ c tail, cs = c :: tail ∧ opensNumber c = true := by
  cases cs with
  | nil => cases h
  | cons c tail =>
    refine ⟨c, tail, rfl, ?_⟩
    by_contra hopens
    simp only [opensNumber, Bool.or_eq_true, decide_eq_true_eq, not_or] at hopens
    have hspan : (c :: tail).span Char.isDigit = ([], c :: tail) := by
      simp [List.span_eq_takeWhile_dropWhile, hopens.2]
    have hnone : whole? (c :: tail) = none := by
      rw [whole?, hspan]
    rw [numberText?_of_ne (by simp [hopens.1]), unsignedText?, hnone] at h
    cases h

/-- A number begins with its sign or with a digit. -/
theorem exists_chars_number (n : Number) :
    ∃ c tail, n.chars = c :: tail ∧ opensNumber c = true := by
  obtain ⟨t, ht⟩ := exists_numberText?_chars n
  exact exists_of_numberText? ht

/-- Whatever is read of the text of a number ends where that ends. -/
theorem number?_chars_append {n found : Number} {rest left : List Char} (h : EndsNumber rest)
    (hread : number? (n.chars ++ rest) = some (found, left)) :
    left = rest ∧ (found = n → n.ReadsBack) := by
  obtain ⟨t, ht⟩ := exists_numberText?_chars n
  simp only [number?, numberText?_append h ht, Option.bind_eq_bind, Option.bind_some,
    Option.bind_eq_some_iff] at hread
  obtain ⟨same, hsame, hsome⟩ := hread
  cases hsome
  refine ⟨rfl, ?_⟩
  rintro rfl
  rw [Number.ReadsBack, number?, ht]
  simp only [Option.bind_eq_bind, Option.bind_some, hsame]
  rfl

end Json.Reader

end TableFeed
