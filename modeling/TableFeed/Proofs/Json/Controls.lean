import TableFeed.Json.Printer
import TableFeed.Proofs.Text.Digits

/-!
# No controls in printed values

The compact text of a value holds no control character (`Json.not_control_of_mem_chars`).  A
string escapes the controls in it, whether it is a value or a key, and all else is written in
letters, digits and signs.
-/

namespace TableFeed

namespace Text

/-! ## Controls -/

/-- Whether a character is a control, one below the space. -/
def isControl (c : Char) : Bool :=
  c.toNat < 0x20

/-- Characters of which none is a control. -/
def NoControl (cs : List Char) : Prop :=
  ∀ c ∈ cs, isControl c = false

instance (cs : List Char) : Decidable (NoControl cs) :=
  decidable_of_iff ((cs.all fun c => !isControl c) = true) (by simp [NoControl])

theorem noControl_cons {c : Char} {cs : List Char} :
    NoControl (c :: cs) ↔ isControl c = false ∧ NoControl cs :=
  List.forall_mem_cons

theorem noControl_append {left right : List Char} :
    NoControl (left ++ right) ↔ NoControl left ∧ NoControl right :=
  List.forall_mem_append

theorem NoControl.of_subset {cs others : List Char} (h : NoControl others) (hsub : cs ⊆ others) :
    NoControl cs :=
  fun c hc => h c (hsub hc)

/-! ## Digits -/

theorem noControl_natChars (n : Nat) : NoControl (natChars n) := by
  intro c hc
  have hdigit := toNat_of_isDigit (List.all_eq_true.1 (all_isDigit_natChars n) c hc)
  exact decide_eq_false (by omega)

theorem noControl_zeros (count : Nat) : NoControl (List.replicate count '0') := by
  intro c hc
  rw [List.eq_of_mem_replicate hc]
  rfl

theorem noControl_intChars (n : Int) : NoControl (intChars n) := by
  rw [intChars]
  split
  · exact noControl_cons.2 ⟨rfl, noControl_natChars _⟩
  · exact noControl_natChars _

end Text

open Text

/-! ## Numbers -/

namespace Binary64

theorem noControl_plainChars {digits : List Char} (h : NoControl digits) (exponent : Int) :
    NoControl (plainChars digits exponent) := by
  rw [plainChars]
  split
  · simp only [noControl_append]
    exact ⟨⟨h, noControl_zeros _⟩, by decide⟩
  · have hpadded : NoControl (padZeros ((-exponent).toNat + 1) digits) :=
      noControl_append.2 ⟨noControl_zeros _, h⟩
    simp only [noControl_append, noControl_cons]
    exact ⟨hpadded.of_subset (List.take_subset _ _), rfl,
      hpadded.of_subset (List.drop_subset _ _)⟩

theorem noControl_scientificChars {digits : List Char} (h : NoControl digits) (first : Int) :
    NoControl (scientificChars digits first) := by
  have hsign : isControl (if first < 0 then '-' else '+') = false := by
    split
    · rfl
    · rfl
  unfold scientificChars
  simp only [noControl_append, noControl_cons]
  refine ⟨?_, rfl, hsign, noControl_natChars _⟩
  split
  · exact h
  · exact h
  · obtain ⟨hfirst, hrest⟩ := noControl_cons.1 h
    exact noControl_cons.2 ⟨hfirst, noControl_cons.2 ⟨rfl, hrest⟩⟩

theorem noControl_chars (x : Binary64) : NoControl x.chars := by
  have hsign : NoControl (if x.negative then ['-'] else []) := by
    split
    · decide
    · decide
  rw [chars, unsignedChars, noControl_append]
  refine ⟨hsign, ?_⟩
  split
  · exact noControl_plainChars (noControl_natChars _) _
  · exact noControl_scientificChars (noControl_natChars _) _

end Binary64

theorem Number.noControl_chars (n : Number) : NoControl n.chars := by
  cases n with
  | whole n => exact noControl_intChars n.value
  | real x => exact x.noControl_chars

/-! ## Strings -/

theorem isControl_hexDigit {n : Nat} (h : n < 16) : isControl (hexDigit n) = false := by
  have hall : ∀ n < 16, isControl (hexDigit n) = false := by decide
  exact hall n h

/-- A control is written by its code in two digits, or by a letter. -/
theorem noControl_escapeChar (c : Char) : NoControl (escapeChar c) := by
  rw [escapeChar]
  iterate 7
    split
    · decide
  split
  · next hcontrol =>
    simp only [noControl_cons]
    exact ⟨rfl, rfl, rfl, rfl, isControl_hexDigit (by omega), isControl_hexDigit (by omega), nofun⟩
  · next hplain => exact noControl_cons.2 ⟨decide_eq_false hplain, nofun⟩

theorem noControl_stringChars (text : String) : NoControl (stringChars text) := by
  simp only [stringChars, noControl_cons, noControl_append]
  refine ⟨rfl, fun c hc => ?_, rfl, nofun⟩
  obtain ⟨escaped, -, hc⟩ := List.mem_flatMap.1 hc
  exact noControl_escapeChar escaped c hc

/-! ## Values -/

namespace Json

mutual

theorem noControl_chars : (value : Json) → NoControl value.chars
  | .null => by decide
  | .bool true => by decide
  | .bool false => by decide
  | .number n => n.noControl_chars
  | .string text => noControl_stringChars text
  | .array [] => by decide
  | .array (item :: rest) => by
    simp only [chars, noControl_cons, noControl_append]
    exact ⟨rfl, noControl_chars item, noControl_charsItems rest⟩
  | .object [] => by decide
  | .object ((key, value) :: rest) => by
    simp only [chars, noControl_cons, noControl_append]
    exact ⟨rfl, noControl_stringChars key, rfl, noControl_chars value, noControl_charsMembers rest⟩

theorem noControl_charsItems : (items : List Json) → NoControl (charsItems items)
  | [] => by decide
  | item :: rest => by
    simp only [charsItems, noControl_cons, noControl_append]
    exact ⟨rfl, noControl_chars item, noControl_charsItems rest⟩

theorem noControl_charsMembers : (members : List (String × Json)) → NoControl (charsMembers members)
  | [] => by decide
  | (key, value) :: rest => by
    simp only [charsMembers, noControl_cons, noControl_append]
    exact ⟨rfl, noControl_stringChars key, rfl, noControl_chars value, noControl_charsMembers rest⟩

end

/-- No control is a character of a compact text. -/
theorem not_control_of_mem_chars {value : Json} {c : Char} (h : c ∈ value.chars) :
    isControl c = false :=
  value.noControl_chars c h

end Json

end TableFeed
