import TableFeed.Proofs.Entries
import TableFeed.Proofs.Json.Numerals

/-!
# Values read back

The compact text of a value is read as the value again when nothing in the value stands in the way
of it (`Json.ofText?_text`).  `Json.Legible` lists what could: a binary64 number that is not read
from its own text, an object that opens with the key of embedded texts, and containers nested deeper
than a reader goes.
-/

namespace TableFeed.Json

open Reader

/-- A value that can be read from its text by a reader that goes `depth` containers deep. -/
inductive Legible : Nat → Json → Prop where
  | null {depth : Nat} : Legible depth .null
  | bool {depth : Nat} (b : Bool) : Legible depth (.bool b)
  | whole {depth : Nat} (n : Whole) : Legible depth (.number (.whole n))
  /-- A binary64 number is read from its own text. -/
  | real {depth : Nat} {x : Binary64} (hx : (Number.real x).ReadsBack) :
      Legible depth (.number (.real x))
  | string {depth : Nat} (text : String) : Legible depth (.string text)
  /-- An array takes one container of the depth. -/
  | array {depth : Nat} {items : List Json} (hitems : ∀ item ∈ items, Legible depth item) :
      Legible (depth + 1) (.array items)
  /-- So does an object.  Its keys stand in order, as they do in every object, and the first of them
  marks no embedded text. -/
  | object {depth : Nat} {members : List (String × Json)}
      (hordered : members.Pairwise fun left right => left.1 < right.1)
      (hopens : ∀ member ∈ members.head?, member.1 ≠ embeddingKey)
      (hmembers : ∀ member ∈ members, Legible depth member.2) :
      Legible (depth + 1) (.object members)

theorem Legible.of_readsBack {depth : Nat} {n : Number} (hn : n.ReadsBack) :
    Legible depth (.number n) := by
  cases n with
  | whole n => exact .whole n
  | real x => exact .real hn

namespace Reader

variable {c : Char} {cs rest : List Char}

/-! ## First characters -/

theorem toToken_cons (h : isSpace c = false) : toToken (c :: cs) = c :: cs := by
  rw [toToken, List.dropWhile_cons_of_neg (by simp [h])]

/-- Whether a character can open a value: it is no blank and closes no array. -/
def opensValue (c : Char) : Bool :=
  !isSpace c && c ≠ ']'

theorem ne_of_opensNumber {other : Char} (h : opensNumber c = true)
    (hother : opensNumber other = false) : c ≠ other := by
  rintro rfl
  rw [h] at hother
  cases hother

theorem opensValue_of_opensNumber (h : opensNumber c = true) : opensValue c = true := by
  simp only [opensValue, isSpace, Bool.and_eq_true, Bool.not_eq_true', Bool.or_eq_false_iff,
    decide_eq_false_iff_not, decide_eq_true_eq]
  refine ⟨⟨⟨⟨?_, ?_⟩, ?_⟩, ?_⟩, ?_⟩ <;> exact ne_of_opensNumber h (by decide)

theorem isSpace_of_opensValue (h : opensValue c = true) : isSpace c = false := by
  simp only [opensValue, Bool.and_eq_true, Bool.not_eq_true'] at h
  exact h.1

end Reader

/-- Every value begins with a character that can open one. -/
theorem exists_chars (value : Json) :
    ∃ c tail, value.chars = c :: tail ∧ opensValue c = true := by
  cases value with
  | null => exact ⟨_, _, rfl, by decide⟩
  | bool b =>
    cases b with
    | false => exact ⟨_, _, rfl, by decide⟩
    | true => exact ⟨_, _, rfl, by decide⟩
  | number n =>
    obtain ⟨c, tail, hchars, hopens⟩ := exists_chars_number n
    exact ⟨c, tail, hchars, opensValue_of_opensNumber hopens⟩
  | string text => exact ⟨_, _, rfl, by decide⟩
  | array items =>
    cases items with
    | nil => exact ⟨_, _, rfl, by decide⟩
    | cons item items => exact ⟨_, _, rfl, by decide⟩
  | object members =>
    cases members with
    | nil => exact ⟨_, _, rfl, by decide⟩
    | cons member members => exact ⟨_, _, rfl, by decide⟩

/-! ## Values before other characters -/

/-- A value is read from its text, whatever follows that does not continue a number. -/
def IsRead (depth : Nat) (value : Json) : Prop :=
  ∀ fuel rest, 2 * value.chars.length ≤ fuel + 1 → EndsNumber rest →
    value? (fuel + 1) depth (value.chars ++ rest) = some (value, rest)

namespace Reader

variable {depth fuel : Nat} {rest : List Char}

theorem after?_append (word : List Char) : after? word (word ++ rest) = some rest := by
  induction word with
  | nil =>
    cases rest with
    | nil => rfl
    | cons c rest => rfl
  | cons c word ih => rw [List.cons_append, after?, if_pos rfl, ih]

theorem value?_null : value? (fuel + 1) depth (Json.null.chars ++ rest) = some (.null, rest) := by
  change (after? ['u', 'l', 'l'] (['u', 'l', 'l'] ++ rest)).map _ = _
  rw [after?_append]
  rfl

theorem value?_bool (b : Bool) :
    value? (fuel + 1) depth ((Json.bool b).chars ++ rest) = some (.bool b, rest) := by
  cases b with
  | false =>
    change (after? ['a', 'l', 's', 'e'] (['a', 'l', 's', 'e'] ++ rest)).map _ = _
    rw [after?_append]
    rfl
  | true =>
    change (after? ['r', 'u', 'e'] (['r', 'u', 'e'] ++ rest)).map _ = _
    rw [after?_append]
    rfl

theorem value?_number (n : Number) : value? (fuel + 1) depth (n.chars ++ rest) =
    (number? (n.chars ++ rest)).map fun (n, rest) => (.number n, rest) := by
  obtain ⟨c, tail, hchars, hopens⟩ := exists_chars_number n
  have hspace := isSpace_of_opensValue (opensValue_of_opensNumber hopens)
  have hne : ∀ other, opensNumber other = false → c ≠ other := fun _ => ne_of_opensNumber hopens
  rw [hchars, List.cons_append, value?, toToken_cons hspace]
  simp only [if_neg (hne 'n' (by decide)), if_neg (hne 't' (by decide)),
    if_neg (hne 'f' (by decide)), if_neg (hne '"' (by decide)), if_neg (hne '[' (by decide)),
    if_neg (hne '\x7b' (by decide))]

theorem value?_of_readsBack {n : Number} (hn : n.ReadsBack) (hrest : EndsNumber rest) :
    value? (fuel + 1) depth (n.chars ++ rest) = some (.number n, rest) := by
  have hread := number?_append hrest hn
  rw [List.nil_append] at hread
  rw [value?_number, hread]
  rfl

theorem value?_string (text : String) :
    value? (fuel + 1) depth (stringChars text ++ rest) = some (.string text, rest) := by
  have hread : text? (stringChars text ++ rest) = some (text, rest) := text?_stringChars text
  rw [stringChars, List.cons_append] at hread ⊢
  rw [text?] at hread
  obtain ⟨⟨cs, left⟩, hstring, hsome⟩ := Option.map_eq_some_iff.1 hread
  cases hsome
  rw [value?, toToken_cons (by decide)]
  simp only [hstring, Option.map_some]
  rfl

/-- What follows an opening bracket and an item is items. -/
theorem value?_bracket (item : Json) :
    value? (fuel + 1) (depth + 1) ('[' :: (item.chars ++ rest)) =
      (items? fuel depth (item.chars ++ rest)).map fun (items, rest) => (.array items, rest) := by
  obtain ⟨c, tail, hchars, hopens⟩ := exists_chars item
  have hclose : c ≠ ']' := by
    rintro rfl
    cases hopens
  rw [hchars, List.cons_append, value?, toToken_cons (by decide)]
  simp only [Char.reduceEq, ↓reduceIte, toToken_cons (isSpace_of_opensValue hopens),
    List.cons.injEq, hclose, false_and, imp_self, implies_true]

/-! ## Parts of containers -/

theorem key?_stringChars (key : String) :
    key? (stringChars key ++ ':' :: rest) = some (key, rest) := by
  have htoken : toToken (stringChars key ++ ':' :: rest) = stringChars key ++ ':' :: rest :=
    toToken_cons (by decide)
  have hcolon : toToken (':' :: rest) = ':' :: rest := toToken_cons (by decide)
  rw [key?, htoken, text?_stringChars]
  simp only [Option.bind_eq_bind, Option.bind_some, hcolon]

theorem opensEmbedded_stringChars (key : String) :
    opensEmbedded (stringChars key ++ ':' :: rest) = decide (key = embeddingKey) := by
  rw [opensEmbedded, key?_stringChars]
  rfl

theorem endsNumber_charsItems (items : List Json) : EndsNumber (charsItems items ++ rest) := by
  cases items with
  | nil =>
    intro c hc
    cases hc
    decide
  | cons item items =>
    intro c hc
    cases hc
    decide

theorem endsNumber_charsMembers (members : List (String × Json)) :
    EndsNumber (charsMembers members ++ rest) := by
  cases members with
  | nil =>
    intro c hc
    cases hc
    decide
  | cons member members =>
    intro c hc
    cases hc
    decide

/-- What follows an opening brace and a key is members, unless the key marks an embedded text. -/
theorem value?_brace (key : String) :
    value? (fuel + 1) (depth + 1) ('\x7b' :: (stringChars key ++ ':' :: rest)) =
      if key = embeddingKey then embedded? fuel (stringChars key ++ ':' :: rest)
      else
        (members? fuel depth (stringChars key ++ ':' :: rest)).map fun (members, rest) =>
          (.object (Entries.sorted members), rest) := by
  have hopens : opensEmbedded (stringChars key ++ ':' :: rest) = decide (key = embeddingKey) :=
    opensEmbedded_stringChars key
  rw [stringChars, List.cons_append] at hopens
  rw [value?, toToken_cons (by decide), stringChars, List.cons_append]
  simp only [Char.reduceEq, ↓reduceIte, toToken_cons (show isSpace '"' = false by decide), hopens,
    List.cons.injEq, false_and, imp_self, implies_true, decide_eq_true_eq]

/-- Items are read from their text when each of them is. -/
theorem items?_chars {item : Json} {items : List Json}
    (hread : ∀ other ∈ item :: items, IsRead depth other)
    (hfuel : 2 * (item.chars ++ charsItems items).length ≤ fuel) :
    items? fuel depth (item.chars ++ (charsItems items ++ rest)) = some (item :: items, rest) := by
  have hends : EndsNumber (charsItems items ++ rest) := endsNumber_charsItems items
  induction items generalizing item fuel with
  | nil =>
    have hitem := hread item List.mem_cons_self
    have hclose : toToken (charsItems [] ++ rest) = ']' :: rest := toToken_cons (by decide)
    simp only [charsItems, List.length_append, List.length_singleton] at hfuel
    obtain ⟨left, rfl⟩ : ∃ left, fuel = left + 2 := ⟨fuel - 2, by omega⟩
    rw [items?, hitem left _ (by omega) hends]
    simp only [hclose]
  | cons next items ih =>
    obtain ⟨hitem, hitems⟩ := List.forall_mem_cons.1 hread
    have hcomma : toToken (charsItems (next :: items) ++ rest) =
        ',' :: (next.chars ++ charsItems items ++ rest) := toToken_cons (by decide)
    simp only [charsItems, List.length_append, List.length_cons] at hfuel
    obtain ⟨left, rfl⟩ : ∃ left, fuel = left + 2 := ⟨fuel - 2, by omega⟩
    have hleft : 2 * (next.chars ++ charsItems items).length ≤ left + 1 := by
      rw [List.length_append]
      omega
    have hrest := ih hitems hleft (endsNumber_charsItems items)
    rw [items?, hitem left _ (by omega) hends]
    simp only [hcomma, List.append_assoc, hrest, Option.map_some]

/-- Members are read from their text when the value of each of them is. -/
theorem members?_chars {member : String × Json} {members : List (String × Json)}
    (hread : ∀ other ∈ member :: members, IsRead depth other.2)
    (hfuel : 2 * (member.2.chars ++ charsMembers members).length ≤ fuel) :
    members? fuel depth
        (stringChars member.1 ++ ':' :: (member.2.chars ++ (charsMembers members ++ rest))) =
      some (member :: members, rest) := by
  have hends : EndsNumber (charsMembers members ++ rest) := endsNumber_charsMembers members
  induction members generalizing member fuel with
  | nil =>
    have hmember := hread member List.mem_cons_self
    have hclose : toToken (charsMembers [] ++ rest) = '\x7d' :: rest := toToken_cons (by decide)
    simp only [charsMembers, List.length_append, List.length_singleton] at hfuel
    obtain ⟨left, rfl⟩ : ∃ left, fuel = left + 2 := ⟨fuel - 2, by omega⟩
    rw [members?, key?_stringChars]
    simp only [hmember left _ (by omega) hends, hclose]
  | cons next members ih =>
    obtain ⟨hmember, hmembers⟩ := List.forall_mem_cons.1 hread
    have hcomma : toToken (charsMembers (next :: members) ++ rest) = ',' ::
        (stringChars next.1 ++ ':' :: (next.2.chars ++ charsMembers members) ++ rest) :=
      toToken_cons (by decide)
    simp only [charsMembers, List.length_append, List.length_cons] at hfuel
    obtain ⟨left, rfl⟩ : ∃ left, fuel = left + 2 := ⟨fuel - 2, by omega⟩
    have hleft : 2 * (next.2.chars ++ charsMembers members).length ≤ left + 1 := by
      rw [List.length_append]
      omega
    have hrest := ih hmembers hleft (endsNumber_charsMembers members)
    rw [members?, key?_stringChars]
    simp only [hmember left _ (by omega) hends, hcomma, List.append_assoc, List.cons_append,
      hrest, Option.map_some]

end Reader

/-! ## Values -/

/-- A value that can be read is read from its text, whatever follows. -/
theorem Legible.isRead {depth : Nat} {value : Json} (h : Legible depth value) :
    IsRead depth value := by
  induction h with
  | null => exact fun _ _ _ _ => value?_null
  | bool b => exact fun _ _ _ _ => value?_bool b
  | whole n => exact fun _ _ _ hrest => value?_of_readsBack (readsBack_whole n) hrest
  | real hx => exact fun _ _ _ hrest => value?_of_readsBack hx hrest
  | string text => exact fun _ _ _ _ => value?_string text
  | @array depth items hitems ih =>
    intro fuel rest hfuel _
    cases items with
    | nil => rfl
    | cons item items =>
      rw [chars, List.length_cons] at hfuel
      rw [chars, List.cons_append, List.append_assoc, value?_bracket, items?_chars ih (by omega)]
      rfl
  | @object depth members hordered hopens hmembers ih =>
    intro fuel rest hfuel _
    cases members with
    | nil => rfl
    | cons member members =>
      have hkey : member.1 ≠ embeddingKey := hopens member rfl
      have hfuel' : 2 * (member.2.chars ++ charsMembers members).length ≤ fuel := by
        simp only [chars, List.length_cons, List.length_append] at hfuel
        rw [List.length_append]
        omega
      rw [chars, List.cons_append, List.append_assoc, List.cons_append, List.append_assoc,
        value?_brace, if_neg hkey, members?_chars ih hfuel', Option.map_some]
      -- Sorting leaves the members alone, for they stand in order.
      simp only [Entries.sorted_of_increasing hordered]

/-- A value that can be read is what its text is read as. -/
theorem ofText?_text {value : Json} (h : Legible depthLimit value) :
    ofText? value.text = some value := by
  have hread := h.isRead (2 * value.chars.length + 1) [] (by omega) endsNumber_nil
  rw [List.append_nil] at hread
  rw [ofText?, text, String.toList_ofList, nested?, Nat.sub_zero, fuelFor, hread]
  rfl

end TableFeed.Json
