import TableFeed.Text.Blank
import TableFeed.Text.Pieces

/-!
# Pieces and blanks

The pieces of a text are what the library's `List.splitOn` gives (`pieces_eq_splitOn`), so
joining them gives the text back, and texts without the mark that are joined come apart again.
There is one piece more than there are marks.

Blanks around a text do not change what is left when it is trimmed (`trimChars_padded`).
-/

namespace TableFeed.Text

variable {mark : Char} {cs : List Char}

/-! ## Pieces -/

theorem pieces_eq_splitOn (mark : Char) (cs : List Char) : pieces mark cs = cs.splitOn mark := by
  induction cs with
  | nil => rfl
  | cons c rest ih =>
    have hne := List.splitOn_ne_nil mark rest
    rw [pieces, List.splitOn_cons_eq_if_modifyHead, ih]
    by_cases hmark : c = mark
    · rw [if_pos hmark, if_pos (beq_iff_eq.2 hmark)]
    · rw [if_neg hmark, if_neg (mt beq_iff_eq.1 hmark)]
      cases hpieces : List.splitOn mark rest with
      | nil => exact absurd hpieces hne
      | cons first others => rfl

theorem length_pieces (mark : Char) (cs : List Char) :
    (pieces mark cs).length = cs.count mark + 1 := by
  induction cs with
  | nil => rfl
  | cons c rest ih =>
    rw [pieces]
    split
    · next hmark => rw [List.length_cons, ih, hmark, List.count_cons_self]
    · next hmark =>
      rw [List.count_cons_of_ne hmark, ← ih]
      split
      · next hnil => exact absurd hnil (pieces_ne_nil mark rest)
      · next hpieces => rw [hpieces]; rfl

theorem pieces_of_not_mem (h : mark ∉ cs) : pieces mark cs = [cs] := by
  rw [pieces_eq_splitOn, List.splitOn_eq_singleton h]

/-- Around the only mark there are two pieces. -/
theorem pieces_of_count_eq_one (h : cs.count mark = 1) :
    pieces mark cs = [cs.takeWhile (· ≠ mark), (cs.dropWhile (· ≠ mark)).tail] := by
  induction cs with
  | nil => cases h
  | cons c rest ih =>
    rw [pieces]
    by_cases hmark : c = mark
    · subst hmark
      rw [List.count_cons_self, Nat.add_eq_right, List.count_eq_zero] at h
      simp [pieces_of_not_mem h]
    · rw [List.count_cons_of_ne hmark] at h
      simp [hmark, ih h]

/-! ## Trimming -/

/-- Trimming takes away all blanks around a text. -/
theorem trimChars_padded {before after : List Char} (hbefore : ∀ c ∈ before, isBlank c = true)
    (hafter : ∀ c ∈ after, isBlank c = true) (cs : List Char) :
    trimChars (before ++ cs ++ after) = trimChars cs := by
  have hreverse : ∀ c ∈ after.reverse, isBlank c = true :=
    fun c hc => hafter c (List.mem_reverse.1 hc)
  have hblank : after.dropWhile isBlank = [] := by
    have hall : (after ++ []).dropWhile isBlank = [] := List.dropWhile_append_of_pos hafter
    rwa [List.append_nil] at hall
  rw [trimChars, trimChars, List.append_assoc, List.dropWhile_append_of_pos hbefore,
    List.dropWhile_append, hblank]
  split
  · next hempty => rw [List.isEmpty_iff.1 hempty]
  · rw [List.reverse_append, List.dropWhile_append_of_pos hreverse]

end TableFeed.Text
