import TableFeed.Proofs.Calendar.Instant

/-!
# Times of day in order

Texts of times of day sort as the times do (`lt_of_clock?`).  The hour, the minute and the second
have two digits each, so the first of them that differs decides.  The digits of fractions decide
also where there are more of them in one text than in the other (`lt_of_fractionValue_lt`).
-/

namespace TableFeed.Calendar

open Text

/-! ## Digits in order -/

theorem append_lt_append {front front' : List Char} (hlength : front.length = front'.length)
    (h : front < front') (rest rest' : List Char) : front ++ rest < front' ++ rest' := by
  induction front generalizing front' with
  | nil =>
    obtain rfl := List.length_eq_zero_iff.1 hlength.symm
    exact absurd h (List.lt_irrefl [])
  | cons c front ih =>
    cases front' with
    | nil => cases hlength
    | cons c' front' =>
      rw [List.cons_append, List.cons_append, List.cons_lt_cons_iff]
      rcases List.cons_lt_cons_iff.1 h with hlt | ⟨rfl, hlt⟩
      · exact .inl hlt
      · exact .inr ⟨rfl, ih (Nat.succ.inj hlength) hlt⟩

theorem fractionValue_cons (c : Char) (digits : List Char) :
    fractionValue (c :: digits) = ((c.toNat - '0'.toNat : Nat) + fractionValue digits) / 10 := by
  have hone : fractionValue [c] = (c.toNat - '0'.toNat : Nat) / 10 := by
    have hdigit : digitsValue [c] = c.toNat - '0'.toNat := by
      rw [← List.nil_append [c], digitsValue_concat]
      exact Nat.zero_add _
    rw [fractionValue, hdigit, List.length_singleton, pow_one]
  rw [← List.singleton_append, fractionValue_append, hone, List.length_singleton, pow_one]
  ring

/-- The digits of the smaller fraction come first, however many there are. -/
theorem lt_of_fractionValue_lt {left right : List Char} (hleft : left.all Char.isDigit = true)
    (hright : right.all Char.isDigit = true) (h : fractionValue left < fractionValue right) :
    left < right := by
  induction left generalizing right with
  | nil =>
    cases right with
    | nil => exact absurd h (lt_irrefl _)
    | cons d right => exact List.nil_lt_cons d right
  | cons c left ih =>
    cases right with
    | nil =>
      have hnone : fractionValue [] = 0 := by
        rw [fractionValue, List.length_nil, pow_zero, div_one]
        rfl
      rw [hnone] at h
      exact absurd h (fractionValue_nonneg (c :: left)).not_gt
    | cons d right =>
      obtain ⟨hc, hleft⟩ : c.isDigit = true ∧ left.all Char.isDigit = true := by simpa using hleft
      obtain ⟨hd, hrest⟩ : d.isDigit = true ∧ right.all Char.isDigit = true := by
        simpa using hright
      rw [fractionValue_cons, fractionValue_cons, div_lt_div_iff_of_pos_right (by norm_num)] at h
      have hnonneg := fractionValue_nonneg left
      have hone := fractionValue_lt_one hrest
      have hzero : '0'.toNat = 48 := rfl
      have hc := toNat_of_isDigit hc
      have hd := toNat_of_isDigit hd
      rw [List.cons_lt_cons_iff]
      -- The rest of a fraction is less than a unit of its first digit.
      have hle : c.toNat ≤ d.toNat := by
        by_contra hgt
        have hdigit : ((d.toNat - '0'.toNat : Nat) : ℚ) + 1 ≤ (c.toNat - '0'.toNat : Nat) := by
          exact_mod_cast (show d.toNat - '0'.toNat + 1 ≤ c.toNat - '0'.toNat by omega)
        linarith
      rcases Nat.lt_or_eq_of_le hle with hlt | heq
      · exact .inl hlt
      · obtain rfl := Char.toNat_inj.1 heq
        exact .inr ⟨rfl, ih hleft hrest (by linarith)⟩

theorem fixedDigits_append_lt {width m n : Nat} (hwidth : 0 < width) (hlt : m < n)
    (hn : n < tenTo width) (rest rest' : List Char) :
    fixedDigits width m ++ rest < fixedDigits width n ++ rest' := by
  have hm : m < tenTo width := hlt.trans hn
  refine append_lt_append ?_ (lt_of_fractionValue_lt (all_isDigit_fixedDigits width m)
    (all_isDigit_fixedDigits width n) ?_) rest rest'
  · rw [length_fixedDigits hwidth hm, length_fixedDigits hwidth hn]
  · rw [fractionValue_fixedDigits hwidth hm, fractionValue_fixedDigits hwidth hn,
      div_lt_div_iff_of_pos_right (by positivity)]
    exact_mod_cast hlt

/-! ## What was read -/

theorem eq_append_of_number? {width n : Nat} (hwidth : 0 < width) {cs rest : List Char}
    (h : number? (· = width) cs = some (n, rest)) :
    cs = fixedDigits width n ++ rest ∧ n < tenTo width := by
  rw [number?] at h
  split at h
  · next hlength =>
    cases h
    have hlength := of_decide_eq_true hlength
    have hdigits : (cs.takeWhile Char.isDigit).all Char.isDigit = true := List.all_takeWhile
    have hne : cs.takeWhile Char.isDigit ≠ [] := List.length_pos_iff.1 (by omega)
    refine ⟨?_, by simpa only [hlength] using digitsValue_lt hdigits⟩
    rw [← hlength, fixedDigits_digitsValue hdigits hne, List.takeWhile_append_dropWhile]
  · cases h

theorem eq_cons_of_mark? {mark : Char} {cs rest : List Char} (h : mark? mark cs = some rest) :
    cs = mark :: rest := by
  cases cs with
  | nil => cases h
  | cons c cs =>
    rw [mark?] at h
    split at h
    · next hmark =>
      cases h
      rw [hmark]
    · cases h

theorem eq_of_fraction? {cs digits : List Char} (h : fraction? cs = some digits) :
    cs = (if digits = [] then [] else '.' :: digits) ∧ digits.all Char.isDigit = true := by
  cases cs with
  | nil =>
    cases h
    exact ⟨rfl, rfl⟩
  | cons c cs =>
    rw [fraction?] at h
    split at h
    · next hpoint =>
      cases h
      rw [hpoint.1, if_neg hpoint.2.1]
      exact ⟨rfl, hpoint.2.2⟩
    · cases h

/-- A time of day is read from three numbers of two digits and a fraction. -/
theorem exists_of_clock? {cs : List Char} {clock : Clock} (h : clock? cs = some clock) :
    ∃ tail, fraction? tail = some clock.fraction ∧
      cs = fixedDigits 2 clock.hour ++ ':' :: (fixedDigits 2 clock.minute ++ ':' ::
        (fixedDigits 2 clock.second ++ tail)) := by
  simp only [clock?, Option.bind_eq_bind, Option.bind_eq_some_iff, Prod.exists] at h
  obtain ⟨hour, cs₁, hhour, cs₂, hmark, minute, cs₃, hminute, cs₄, hmark', second, tail, hsecond,
    digits, hfraction, hclock⟩ := h
  cases hclock
  refine ⟨tail, hfraction, ?_⟩
  rw [(eq_append_of_number? (by decide) hhour).1, eq_cons_of_mark? hmark,
    (eq_append_of_number? (by decide) hminute).1, eq_cons_of_mark? hmark',
    (eq_append_of_number? (by decide) hsecond).1]

/-! ## Times in order -/

theorem Clock.lt_of_isValid {clock : Clock} (h : clock.isValid = true) :
    clock.hour < tenTo 2 ∧ clock.minute < 60 ∧ clock.second < 60 := by
  have hhundred : tenTo 2 = 100 := rfl
  simp only [isValid, Bool.and_eq_true, decide_eq_true_eq] at h
  omega

/-- The text of an earlier time of day comes first. -/
theorem lt_of_clock? {cs cs' : List Char} {clock clock' : Clock} (h : clock? cs = some clock)
    (h' : clock? cs' = some clock') (hvalid : clock.isValid = true)
    (hvalid' : clock'.isValid = true) (hlt : clock.seconds < clock'.seconds) : cs < cs' := by
  obtain ⟨tail, hfraction, rfl⟩ := exists_of_clock? h
  obtain ⟨tail', hfraction', rfl⟩ := exists_of_clock? h'
  obtain ⟨htail, hdigits⟩ := eq_of_fraction? hfraction
  obtain ⟨htail', hdigits'⟩ := eq_of_fraction? hfraction'
  obtain ⟨hhour, hminute, hsecond⟩ := Clock.lt_of_isValid hvalid
  obtain ⟨hhour', hminute', hsecond'⟩ := Clock.lt_of_isValid hvalid'
  have hsixty : 60 ≤ tenTo 2 := by decide
  have hnonneg := fractionValue_nonneg clock.fraction
  have hone := fractionValue_lt_one hdigits'
  rw [Clock.seconds, Clock.seconds] at hlt
  have hle : clock.hour * 3600 + clock.minute * 60 + clock.second ≤
      clock'.hour * 3600 + clock'.minute * 60 + clock'.second := by
    by_contra hgt
    have hseconds : (clock'.hour * 3600 + clock'.minute * 60 + clock'.second + 1 : ℚ) ≤
        clock.hour * 3600 + clock.minute * 60 + clock.second := by
      exact_mod_cast Nat.not_le.1 hgt
    linarith
  -- The first part that differs decides: the hour, the minute, the second or the fraction.
  rcases Nat.lt_or_eq_of_le (show clock.hour ≤ clock'.hour by omega) with hearlier | hhours
  · exact fixedDigits_append_lt (by decide) hearlier hhour' _ _
  rw [hhours] at hle hlt ⊢
  refine List.append_left_lt (List.cons_lt_cons_iff.2 (.inr ⟨rfl, ?_⟩))
  rcases Nat.lt_or_eq_of_le (show clock.minute ≤ clock'.minute by omega) with hearlier | hminutes
  · exact fixedDigits_append_lt (by decide) hearlier (by omega) _ _
  rw [hminutes] at hle hlt ⊢
  refine List.append_left_lt (List.cons_lt_cons_iff.2 (.inr ⟨rfl, ?_⟩))
  rcases Nat.lt_or_eq_of_le (show clock.second ≤ clock'.second by omega) with hearlier | hseconds
  · exact fixedDigits_append_lt (by decide) hearlier (by omega) _ _
  rw [hseconds] at hlt ⊢
  have hfractions := lt_of_fractionValue_lt hdigits hdigits' (by linarith)
  have hne : clock'.fraction ≠ [] := by
    intro hnil
    rw [hnil] at hfractions
    exact absurd hfractions (List.not_lt_nil _)
  refine List.append_left_lt ?_
  rw [htail, htail', if_neg hne]
  split
  · exact List.nil_lt_cons _ _
  · exact List.cons_lt_cons_iff.2 (.inr ⟨rfl, hfractions⟩)

end TableFeed.Calendar
