import TableFeed.Json.Printer
import TableFeed.Proofs.Decimal

/-!
# Numbers and strings read back

A string is read as what it was written from (`text?_stringChars`), and so is a whole number of 64
bits (`readsBack_whole`).  A binary64 number is written by the shortest digits that tell it, which
the reader takes with a rounding of its own, so not every such number is read back.

What follows a number does not matter as long as it cannot continue it (`number?_append`).
-/

namespace TableFeed

open Text

/-- A number is read from its own text. -/
def Number.ReadsBack (n : Number) : Prop :=
  Json.Reader.number? n.chars = some (n, [])

instance (n : Number) : Decidable n.ReadsBack :=
  inferInstanceAs (Decidable (_ = _))

namespace Json.Reader

/-! ## What follows a number -/

/-- Whether a character can continue a number. -/
def continuesNumber (c : Char) : Bool :=
  c.isDigit || c = '.' || c = 'e' || c = 'E'

/-- Characters do not continue a number that stands before them. -/
def EndsNumber (rest : List Char) : Prop :=
  ∀ c ∈ rest.head?, continuesNumber c = false

theorem endsNumber_nil : EndsNumber [] := by
  intro c hc
  cases hc

variable {cs left rest : List Char}

theorem EndsNumber.not_digit (h : EndsNumber rest) :
    rest.head?.all (fun c => !c.isDigit) = true := by
  cases rest with
  | nil => rfl
  | cons c rest =>
    have hc := h c rfl
    simp only [continuesNumber, Bool.or_eq_false_iff] at hc
    simp [hc]

theorem EndsNumber.ne_of_cons {c : Char} (h : EndsNumber (c :: rest)) :
    c ≠ '.' ∧ c ≠ 'e' ∧ c ≠ 'E' := by
  have hc := h c rfl
  simp only [continuesNumber, Bool.or_eq_false_iff, decide_eq_false_iff_not] at hc
  exact ⟨hc.1.1.2, hc.1.2, hc.2⟩

theorem span_append (h : EndsNumber rest) :
    (cs ++ rest).span Char.isDigit =
      ((cs.span Char.isDigit).1, (cs.span Char.isDigit).2 ++ rest) := by
  induction cs with
  | nil => exact Decimal.span_isDigit_append (List.forall_mem_nil _) h.not_digit
  | cons c cs ih =>
    rw [List.span_eq_takeWhile_dropWhile, List.span_eq_takeWhile_dropWhile, Prod.mk.injEq] at ih
    by_cases hc : c.isDigit = true
    · simp [List.span_eq_takeWhile_dropWhile, hc, ih.1, ih.2]
    · simp [List.span_eq_takeWhile_dropWhile, hc]

/-! ## The parts of a number -/

theorem whole?_eq_some_iff {digits : List Char} :
    whole? cs = some (digits, left) ↔ cs.span Char.isDigit = (digits, left) ∧ digits ≠ [] ∧
      (digits.head? = some '0' → digits = ['0']) := by
  rw [whole?]
  rcases cs.span Char.isDigit with ⟨found, rest⟩
  split
  · next heq =>
    cases heq
    simp +contextual
  · next heq =>
    cases heq
    refine iff_of_false (by simp) ?_
    rintro ⟨heq, -, hzero⟩
    cases heq
    cases hzero rfl
  · next hnil hzero heq =>
    cases heq
    rw [Option.some.injEq, iff_self_and]
    intro hsame
    cases hsame
    refine ⟨hnil, fun hhead => ?_⟩
    cases digits with
    | nil => cases hhead
    | cons c others =>
      cases hhead
      cases others with
      | nil => rfl
      | cons other others => exact absurd rfl (hzero other others)

theorem fraction?_point : fraction? ('.' :: cs) =
    if (cs.span Char.isDigit).1 = [] then none
    else some (some (cs.span Char.isDigit).1, (cs.span Char.isDigit).2) := by
  rw [fraction?]
  rcases cs.span Char.isDigit with ⟨digits, rest⟩
  cases digits with
  | nil => rfl
  | cons c digits => rfl

theorem fraction?_of_ne (h : ∀ tail, cs ≠ '.' :: tail) : fraction? cs = some (none, cs) := by
  rw [fraction?]
  exact h

theorem exponentDigits?_eq (negative : Bool) : exponentDigits? negative cs =
    if (cs.span Char.isDigit).1 = [] then none
    else
      some (if negative then -(digitsValue (cs.span Char.isDigit).1 : Int)
        else digitsValue (cs.span Char.isDigit).1, (cs.span Char.isDigit).2) := by
  rw [exponentDigits?]
  rcases cs.span Char.isDigit with ⟨digits, rest⟩
  cases digits with
  | nil => rfl
  | cons c digits => rfl

/-! ## Numbers before other characters -/

theorem whole?_append {digits : List Char} (h : EndsNumber rest)
    (hread : whole? cs = some (digits, left)) :
    whole? (cs ++ rest) = some (digits, left ++ rest) := by
  obtain ⟨hspan, hdigits⟩ := whole?_eq_some_iff.1 hread
  refine whole?_eq_some_iff.2 ⟨?_, hdigits⟩
  rw [span_append h, hspan]

theorem fraction?_append {fraction : Option (List Char)} (h : EndsNumber rest)
    (hread : fraction? cs = some (fraction, left)) :
    fraction? (cs ++ rest) = some (fraction, left ++ rest) := by
  cases cs with
  | nil =>
    cases hread
    refine fraction?_of_ne fun tail heq => ?_
    rw [List.nil_append] at heq
    subst heq
    exact h.ne_of_cons.1 rfl
  | cons c cs =>
    by_cases hpoint : c = '.'
    · subst hpoint
      rw [fraction?_point, Option.ite_none_left_eq_some] at hread
      obtain ⟨hne, hsome⟩ := hread
      cases hsome
      rw [List.cons_append, fraction?_point, span_append h, if_neg hne]
    · rw [fraction?_of_ne (by simp [hpoint])] at hread
      cases hread
      exact fraction?_of_ne (by simp [hpoint])

theorem exponentDigits?_append {negative : Bool} {value : Int} (h : EndsNumber rest)
    (hread : exponentDigits? negative cs = some (value, left)) :
    exponentDigits? negative (cs ++ rest) = some (value, left ++ rest) := by
  rw [exponentDigits?_eq, Option.ite_none_left_eq_some] at hread
  obtain ⟨hne, hsome⟩ := hread
  cases hsome
  rw [exponentDigits?_eq, span_append h, if_neg hne]

/-- Digits of an exponent with or without a sign, and what follows them. -/
def signedExponent? : List Char → Option (Int × List Char)
  | '+' :: cs => exponentDigits? false cs
  | '-' :: cs => exponentDigits? true cs
  | cs => exponentDigits? false cs

theorem exponent?_cons (c : Char) (cs : List Char) : exponent? (c :: cs) =
    if c = 'e' ∨ c = 'E' then (signedExponent? cs).map fun (value, rest) => (some value, rest)
    else some (none, c :: cs) :=
  rfl

theorem signedExponent?_append {value : Int} (h : EndsNumber rest)
    (hread : signedExponent? cs = some (value, left)) :
    signedExponent? (cs ++ rest) = some (value, left ++ rest) := by
  unfold signedExponent? at hread
  split at hread
  · exact exponentDigits?_append h hread
  · exact exponentDigits?_append h hread
  · next hplus hminus =>
    cases cs with
    | nil => cases hread
    | cons c cs =>
      have hsigns : c ≠ '+' ∧ c ≠ '-' := by
        refine ⟨?_, ?_⟩
        · rintro rfl
          exact hplus cs rfl
        · rintro rfl
          exact hminus cs rfl
      have hread' := exponentDigits?_append h hread
      rw [List.cons_append] at hread' ⊢
      rw [signedExponent?, hread']
      · simp [hsigns.1]
      · simp [hsigns.2]

theorem exponent?_append {exponent : Option Int} (h : EndsNumber rest)
    (hread : exponent? cs = some (exponent, left)) :
    exponent? (cs ++ rest) = some (exponent, left ++ rest) := by
  cases cs with
  | nil =>
    cases hread
    cases rest with
    | nil => rfl
    | cons c rest =>
      obtain ⟨-, hlower, hupper⟩ := h.ne_of_cons
      rw [List.nil_append, exponent?_cons, if_neg (not_or.2 ⟨hlower, hupper⟩)]
  | cons c cs =>
    rw [exponent?_cons] at hread
    rw [List.cons_append, exponent?_cons]
    by_cases hletter : c = 'e' ∨ c = 'E'
    · rw [if_pos hletter] at hread ⊢
      obtain ⟨⟨value, after⟩, hvalue, hsome⟩ := Option.map_eq_some_iff.1 hread
      cases hsome
      rw [signedExponent?_append h hvalue]
      rfl
    · rw [if_neg hletter] at hread ⊢
      cases hread
      rfl

/-- The parts of a number after its sign. -/
def unsignedText? (negative : Bool) (cs : List Char) : Option (NumberText × List Char) := do
  let (whole, cs) ← whole? cs
  let (fraction, cs) ← fraction? cs
  let (exponent, cs) ← exponent? cs
  return (⟨negative, whole, fraction, exponent⟩, cs)

theorem numberText?_of_ne (h : ∀ tail, cs ≠ '-' :: tail) :
    numberText? cs = unsignedText? false cs := by
  rw [numberText?, unsignedText?]
  exact h

theorem unsignedText?_append {negative : Bool} {t : NumberText} (h : EndsNumber rest)
    (hread : unsignedText? negative cs = some (t, left)) :
    unsignedText? negative (cs ++ rest) = some (t, left ++ rest) := by
  simp only [unsignedText?, Option.bind_eq_bind, Option.bind_eq_some_iff, Prod.exists] at hread
  obtain ⟨whole, cs₁, hwhole, fraction, cs₂, hfraction, exponent, cs₃, hexponent, hsome⟩ := hread
  cases hsome
  simp only [unsignedText?, whole?_append h hwhole, fraction?_append h hfraction,
    exponent?_append h hexponent, Option.bind_eq_bind, Option.bind_some]
  rfl

theorem numberText?_append {t : NumberText} (h : EndsNumber rest)
    (hread : numberText? cs = some (t, left)) :
    numberText? (cs ++ rest) = some (t, left ++ rest) := by
  cases cs with
  | nil => cases hread
  | cons c cs =>
    by_cases hminus : c = '-'
    · subst hminus
      exact unsignedText?_append h hread
    · rw [numberText?_of_ne (by simp [hminus])] at hread
      rw [numberText?_of_ne (by simp [hminus])]
      exact unsignedText?_append h hread

/-- What follows the text of a number is left over. -/
theorem number?_append {n : Number} (h : EndsNumber rest)
    (hread : number? cs = some (n, left)) : number? (cs ++ rest) = some (n, left ++ rest) := by
  simp only [number?, Option.bind_eq_bind, Option.bind_eq_some_iff, Prod.exists] at hread
  obtain ⟨t, after, ht, n', hn, hsome⟩ := hread
  cases hsome
  simp only [number?, numberText?_append h ht, hn, Option.bind_eq_bind, Option.bind_some]
  rfl

/-! ## Whole numbers -/

theorem wholeNumber?_natChars (n : Whole) :
    wholeNumber? (n.value < 0) (natChars n.value.natAbs) = some n := by
  have hback := Whole.ofInt?_value n
  rw [wholeNumber?, digitsValue_natChars]
  by_cases hneg : n.value < 0
  · have hvalue : -(n.value.natAbs : Int) = n.value := by omega
    rw [if_pos (decide_eq_true hneg), if_pos (by omega), hvalue, hback]
  · have hvalue : (n.value.natAbs : Int) = n.value := by omega
    rw [if_neg (by simpa using hneg), hvalue, hback]

/-- A whole number is read from its own text. -/
theorem readsBack_whole (n : Whole) : (Number.whole n).ReadsBack := by
  have hchars : intChars n.value = (if n.value < 0 then ['-'] else []) ++
      (natChars n.value.natAbs ++ if (0 : Nat) = 0 then [] else '.' :: []) := by
    rw [intChars, if_pos rfl, List.append_nil]
    split
    · rfl
    · rfl
  have htext := Decimal.numberText?_of_spells (Decimal.spells_natChars n.value.natAbs)
  have hnumber : (Decimal.parts n.value 0 (natChars n.value.natAbs) []).number? =
      some (.whole n) := by
    rw [NumberText.number?, Decimal.parts, if_pos rfl, wholeNumber?_natChars n]
  rw [Number.ReadsBack, Number.chars, hchars, number?, htext]
  simp only [Option.bind_eq_bind, Option.bind_some, hnumber]
  rfl

/-! ## Strings -/

theorem hexValue?_hexDigit {n : Nat} (h : n < 16) : hexValue? (hexDigit n) = some n := by
  have hall : ∀ n < 16, hexValue? (hexDigit n) = some n := by decide
  exact hall n h

/-- A control is read from the code of two digits that it is written by. -/
theorem string?_control {c : Char} (h : c.toNat < 0x20) (done : List Char) :
    string? done ('\\' :: 'u' :: '0' :: '0' :: hexDigit (c.toNat / 16) ::
      hexDigit (c.toNat % 16) :: rest) = string? (c :: done) rest := by
  have hunit : hex4? '0' '0' (hexDigit (c.toNat / 16)) (hexDigit (c.toNat % 16)) =
      some c.toNat := by
    have hzero : hexValue? '0' = some 0 := by decide
    have hcode : c.toNat / 16 * 16 + c.toNat % 16 = c.toNat := by omega
    simp only [hex4?, hzero, hexValue?_hexDigit (show c.toNat / 16 < 16 by omega),
      hexValue?_hexDigit (show c.toNat % 16 < 16 by omega), Option.bind_eq_bind, Option.bind_some,
      Nat.zero_mul, Nat.zero_add, hcode]
    rfl
  have hleading : isLeading c.toNat = false := by
    simp only [isLeading, Bool.and_eq_false_iff, decide_eq_false_iff_not]
    omega
  have htrailing : isTrailing c.toNat = false := by
    simp only [isTrailing, Bool.and_eq_false_iff, decide_eq_false_iff_not]
    omega
  rw [string?]
  simp [hunit, hleading, htrailing, Char.ofNat_toNat]

theorem string?_plain {c : Char} (hquote : c ≠ '"') (hslash : c ≠ '\\')
    (hcontrol : ¬ c.toNat < 0x20) (done : List Char) :
    string? done (c :: rest) = string? (c :: done) rest := by
  rw [string?]
  · rw [if_neg (not_or.2 ⟨hcontrol, hslash⟩)]
  · simp [hquote]
  · simp [hslash]
  · simp [hslash]

theorem string?_letter {c letter : Char} (h : escaped? letter = some c) (hletter : letter ≠ 'u')
    (done : List Char) : string? done ('\\' :: letter :: rest) = string? (c :: done) rest := by
  rw [string?, h]
  · rfl
  · simp [hletter]

/-- A character is read from its written form. -/
theorem string?_escapeChar (c : Char) (done : List Char) :
    string? done (escapeChar c ++ rest) = string? (c :: done) rest := by
  rw [escapeChar]
  split_ifs with hquote hslash hback htab hline hform hreturn hcontrol
  · subst hquote
    exact string?_letter (by decide) (by decide) done
  · subst hslash
    exact string?_letter (by decide) (by decide) done
  · subst hback
    exact string?_letter (by decide) (by decide) done
  · subst htab
    exact string?_letter (by decide) (by decide) done
  · subst hline
    exact string?_letter (by decide) (by decide) done
  · subst hform
    exact string?_letter (by decide) (by decide) done
  · subst hreturn
    exact string?_letter (by decide) (by decide) done
  · exact string?_control hcontrol done
  · exact string?_plain hquote hslash hcontrol done

theorem string?_escaped (cs done : List Char) :
    string? done (cs.flatMap escapeChar ++ '"' :: rest) = some (done.reverse ++ cs, rest) := by
  induction cs generalizing done with
  | nil =>
    rw [List.append_nil]
    rfl
  | cons c cs ih =>
    rw [List.flatMap_cons, List.append_assoc, string?_escapeChar, ih, List.reverse_cons,
      List.append_assoc]
    rfl

/-- A string is read as what it was written from. -/
theorem text?_stringChars (text : String) :
    text? (stringChars text ++ rest) = some (text, rest) := by
  rw [stringChars, List.cons_append, List.append_assoc, text?]
  change (string? [] (text.toList.flatMap escapeChar ++ '"' :: rest)).map _ = _
  rw [string?_escaped]
  exact congrArg (fun read => some (read, rest)) String.ofList_toList

end Json.Reader

end TableFeed
