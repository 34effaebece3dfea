/-!
# Cutting and joining text

`pieces` cuts a text at every occurrence of one character and `join` puts texts
together with a separator between neighbours.  `join_append` is the law that the
row buffers use: joining two non-empty lists is joining their joins.
-/

namespace TableFeed.Text

/-! ## Cutting -/

/-- The stretches between the occurrences of `mark`; one more than there are occurrences. -/
def pieces (mark : Char) : List Char → List (List Char)
  | [] => [[]]
  | c :: rest =>
    if c = mark then [] :: pieces mark rest
    else
      match pieces mark rest with
      | [] => [[c]]
      | first :: others => (c :: first) :: others

/-- The texts between the occurrences of `mark`. -/
def split (mark : Char) (text : String) : List String :=
  (pieces mark text.toList).map String.ofList

theorem pieces_ne_nil (mark : Char) (cs : List Char) : pieces mark cs ≠ [] := by
  cases cs with
  | nil => simp [pieces]
  | cons c rest =>
    rw [pieces]
    split
    · simp
    · split <;> simp

/-! ## Joining -/

/-- The texts one after the other with `separator` between neighbours. -/
def join (separator : String) : List String → String
  | [] => ""
  | [text] => text
  | text :: next :: rest => text ++ separator ++ join separator (next :: rest)

theorem join_cons {separator text : String} {rest : List String} (h : rest ≠ []) :
    join separator (text :: rest) = text ++ separator ++ join separator rest := by
  cases rest with
  | nil => exact absurd rfl h
  | cons next rest => rfl

theorem join_append {separator : String} {left right : List String} (hl : left ≠ [])
    (hr : right ≠ []) :
    join separator (left ++ right) =
      join separator left ++ separator ++ join separator right := by
  induction left with
  | nil => exact absurd rfl hl
  | cons text rest ih =>
    cases rest with
    | nil => simp [join, join_cons hr]
    | cons next rest =>
      have := ih (by simp)
      simp only [List.cons_append] at this ⊢
      rw [join, this, join]
      simp [String.append_assoc]

/-! ## Searching and replacing -/

/-- Whether `needle` stands somewhere in the characters. -/
def occursIn (needle : List Char) : List Char → Bool
  | [] => needle.isEmpty
  | c :: rest => needle.isPrefixOf (c :: rest) || occursIn needle rest

/-- Whether `text` holds `needle`. -/
def contains (text needle : String) : Bool :=
  occursIn needle.toList text.toList

/-- The characters with every `mark` replaced by `substitute`. -/
def replaceChar (mark : Char) (substitute : List Char) (cs : List Char) : List Char :=
  cs.flatMap fun c => if c = mark then substitute else [c]

end TableFeed.Text
