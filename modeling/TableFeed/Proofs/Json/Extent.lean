import TableFeed.Proofs.Json.ReadBack

/-!
# Where printed values end

Whatever is read of a printed value ends where its text ends, also when it is another value
(`Json.stops`).  And when it is the same value then that is legible, so the legible values are all
that are read back (`Json.ofText?_text_iff`).
-/

namespace TableFeed.Json

open Reader

/-- Whatever is read of a value's text ends where that ends, and only a legible value is read as
itself. -/
def Stops (value : Json) : Prop :=
  ∀ fuel depth rest found left, EndsNumber rest →
    value? fuel depth (value.chars ++ rest) = some (found, left) →
      left = rest ∧ (found = value → Legible depth value)

namespace Reader

variable {fuel depth : Nat} {rest left : List Char}

/-- What follows an element of a container: its end, or a comma and more elements. -/
def Continues {α : Type} (close : Char) (more : List Char → Option (List α × List Char))
    (after : List Char) (others : List α) (left : List Char) : Prop :=
  toToken after = close :: left ∧ others = [] ∨
    ∃ elements, toToken after = ',' :: elements ∧ more elements = some (others, left)

section

variable {α : Type} {close : Char} {more : List Char → Option (List α × List Char)}
  {others : List α}

theorem Continues.of_close (h : Continues close more (close :: rest) others left)
    (hspace : isSpace close = false) (hne : close ≠ ',') : left = rest ∧ others = [] := by
  rw [Continues, toToken_cons hspace] at h
  obtain ⟨heq, hnone⟩ | ⟨elements, heq, -⟩ := h
  · exact ⟨(List.cons.inj heq).2.symm, hnone⟩
  · exact absurd (List.cons.inj heq).1 hne

theorem Continues.of_comma {elements : List Char}
    (h : Continues close more (',' :: elements) others left) (hne : close ≠ ',') :
    more elements = some (others, left) := by
  rw [Continues, toToken_cons (by decide)] at h
  obtain ⟨heq, -⟩ | ⟨same, heq, hothers⟩ := h
  · exact absurd (List.cons.inj heq).1.symm hne
  · exact (List.cons.inj heq).2 ▸ hothers

end

/-- Where items are read, the first of them is read up to the end of its text. -/
theorem exists_of_items? {item : Json} {after : List Char} {found : List Json}
    (hitem : item.Stops) (hafter : EndsNumber after)
    (hread : items? fuel depth (item.chars ++ after) = some (found, left)) :
    ∃ fewer first others, found = first :: others ∧ (first = item → Legible depth item) ∧
      Continues ']' (items? fewer depth) after others left := by
  cases fuel with
  | zero => cases hread
  | succ fewer =>
    rw [items?] at hread
    cases hvalue : value? fewer depth (item.chars ++ after) with
    | none =>
      rw [hvalue] at hread
      cases hread
    | some read =>
      obtain ⟨first, rest⟩ := read
      obtain ⟨rfl, hlegible⟩ := hitem fewer depth after first rest hafter hvalue
      simp only [hvalue] at hread
      split at hread
      · next hclose =>
        cases hread
        exact ⟨fewer, first, [], rfl, hlegible, .inl ⟨hclose, rfl⟩⟩
      · next elements hcomma =>
        obtain ⟨⟨others, left⟩, hothers, hsome⟩ := Option.map_eq_some_iff.1 hread
        cases hsome
        exact ⟨fewer, first, others, rfl, hlegible, .inr ⟨elements, hcomma, hothers⟩⟩
      · cases hread

/-- What is read of items ends where their text ends. -/
theorem items?_stops {item : Json} {items found : List Json}
    (hstops : ∀ other ∈ item :: items, other.Stops)
    (hread : items? fuel depth (item.chars ++ (charsItems items ++ rest)) = some (found, left)) :
    left = rest ∧ (found = item :: items → ∀ other ∈ item :: items, Legible depth other) := by
  induction items generalizing item fuel found with
  | nil =>
    have hitem := hstops item List.mem_cons_self
    obtain ⟨fewer, first, others, rfl, hlegible, hcontinues⟩ :=
      exists_of_items? hitem (endsNumber_charsItems []) hread
    obtain ⟨rfl, rfl⟩ := hcontinues.of_close (by decide) (by decide)
    refine ⟨rfl, fun hsame => ?_⟩
    exact List.forall_mem_singleton.2 (hlegible (List.cons.inj hsame).1)
  | cons next items ih =>
    obtain ⟨hitem, hitems⟩ := List.forall_mem_cons.1 hstops
    obtain ⟨fewer, first, others, rfl, hlegible, hcontinues⟩ :=
      exists_of_items? hitem (endsNumber_charsItems (next :: items)) hread
    have hothers := hcontinues.of_comma (by decide)
    rw [List.append_eq, List.append_assoc] at hothers
    obtain ⟨rfl, hrest⟩ := ih hitems hothers
    refine ⟨rfl, fun hsame => ?_⟩
    obtain ⟨hfirst, hsame⟩ := List.cons.inj hsame
    exact List.forall_mem_cons.2 ⟨hlegible hfirst, hrest hsame⟩

/-- Where members are read, the value of the first of them is read up to the end of its text. -/
theorem exists_of_members? {key : String} {value : Json} {after : List Char}
    {found : List (String × Json)} (hvalue : value.Stops) (hafter : EndsNumber after)
    (hread : members? fuel depth (stringChars key ++ ':' :: (value.chars ++ after)) =
      some (found, left)) :
    ∃ fewer first others, found = (key, first) :: others ∧ (first = value → Legible depth value) ∧
      Continues '\x7d' (members? fewer depth) after others left := by
  cases fuel with
  | zero => cases hread
  | succ fewer =>
    rw [members?, key?_stringChars] at hread
    cases hfirst : value? fewer depth (value.chars ++ after) with
    | none =>
      simp only [hfirst] at hread
      cases hread
    | some read =>
      obtain ⟨first, rest⟩ := read
      obtain ⟨rfl, hlegible⟩ := hvalue fewer depth after first rest hafter hfirst
      simp only [hfirst] at hread
      split at hread
      · next hclose =>
        cases hread
        exact ⟨fewer, first, [], rfl, hlegible, .inl ⟨hclose, rfl⟩⟩
      · next elements hcomma =>
        obtain ⟨⟨others, left⟩, hothers, hsome⟩ := Option.map_eq_some_iff.1 hread
        cases hsome
        exact ⟨fewer, first, others, rfl, hlegible, .inr ⟨elements, hcomma, hothers⟩⟩
      · cases hread

/-- What is read of members ends where their text ends, and has their keys. -/
theorem members?_stops {member : String × Json} {members found : List (String × Json)}
    (hstops : ∀ other ∈ member :: members, other.2.Stops)
    (hread : members? fuel depth
      (stringChars member.1 ++ ':' :: (member.2.chars ++ (charsMembers members ++ rest))) =
        some (found, left)) :
    left = rest ∧ found.map Prod.fst = (member :: members).map Prod.fst ∧
      (found = member :: members → ∀ other ∈ member :: members, Legible depth other.2) := by
  induction members generalizing member fuel found with
  | nil =>
    have hmember := hstops member List.mem_cons_self
    obtain ⟨fewer, first, others, rfl, hlegible, hcontinues⟩ :=
      exists_of_members? hmember (endsNumber_charsMembers []) hread
    obtain ⟨rfl, rfl⟩ := hcontinues.of_close (by decide) (by decide)
    refine ⟨rfl, rfl, fun hsame => ?_⟩
    exact List.forall_mem_singleton.2 (hlegible (congrArg Prod.snd (List.cons.inj hsame).1))
  | cons next members ih =>
    obtain ⟨hmember, hmembers⟩ := List.forall_mem_cons.1 hstops
    obtain ⟨fewer, first, others, rfl, hlegible, hcontinues⟩ :=
      exists_of_members? hmember (endsNumber_charsMembers (next :: members)) hread
    have hothers := hcontinues.of_comma (by decide)
    simp only [List.append_eq, List.append_assoc, List.cons_append] at hothers
    obtain ⟨rfl, hkeys, hrest⟩ := ih hmembers hothers
    refine ⟨rfl, ?_, fun hsame => ?_⟩
    · exact congrArg (member.1 :: ·) hkeys
    · obtain ⟨hfirst, hsame⟩ := List.cons.inj hsame
      exact List.forall_mem_cons.2 ⟨hlegible (congrArg Prod.snd hfirst), hrest hsame⟩

/-! ## Embedded texts -/

theorem exists_of_embedded? {cs : List Char} {found : Json}
    (h : embedded? fuel cs = some (found, left)) :
    ∃ fewer text after, fuel = fewer + 1 ∧ embeddedText? cs = some (text, left) ∧
      value? fewer depthLimit text = some (found, after) := by
  cases fuel with
  | zero => cases h
  | succ fewer =>
    rw [embedded?] at h
    split at h
    · cases h
    · next text rest htext =>
      split at h
      · next value after hvalue =>
        obtain ⟨-, hsome⟩ := Option.ite_none_right_eq_some.1 h
        cases hsome
        exact ⟨fewer, text, after, rfl, htext, hvalue⟩
      · cases h

/-- Objects are empty, read from embedded texts or made of members that do not open with the key of
such texts. -/
theorem cases_of_value?_object {cs : List Char} {members : List (String × Json)}
    (h : value? (fuel + 1) depth cs = some (.object members, left)) :
    members = [] ∨ (∃ rest, embedded? fuel rest = some (.object members, left)) ∨
      ∃ fewer rest found, opensEmbedded rest = false ∧
        members? fuel fewer rest = some (found, left) ∧ members = Entries.sorted found := by
  rw [value?] at h
  split at h
  · cases h
  · next c rest _ =>
    have hother {β : Type} {read : Option β} {make : β → Json × List Char}
        (hmake : ∀ part, (make part).1 ≠ .object members) :
        read.map make ≠ some (.object members, left) := by
      intro heq
      obtain ⟨part, -, hsome⟩ := Option.map_eq_some_iff.1 heq
      exact hmake part (congrArg Prod.fst hsome)
    split_ifs at h
    · exact absurd h (hother (by simp))
    · exact absurd h (hother (by simp))
    · exact absurd h (hother (by simp))
    · exact absurd h (hother (by simp))
    · split at h
      · cases h
      · split at h
        · cases h
        · exact absurd h (hother (by simp))
    · split at h
      · cases h
      · next fewer =>
        split at h
        · cases h
          exact .inl rfl
        · split_ifs at h with hopens
          · exact .inr (.inl ⟨_, h⟩)
          · obtain ⟨⟨found, rest⟩, hmembers, hsome⟩ := Option.map_eq_some_iff.1 h
            cases hsome
            exact .inr (.inr ⟨fewer, _, found, Bool.not_eq_true _ ▸ hopens, hmembers, rfl⟩)
    · exact absurd h (hother (by simp))

theorem exists_key_of_members? {cs : List Char} {found : List (String × Json)}
    (h : members? fuel depth cs = some (found, left)) :
    ∃ first others rest, found = first :: others ∧ key? cs = some (first.1, rest) := by
  cases fuel with
  | zero => cases h
  | succ fuel =>
    rw [members?] at h
    split at h
    · cases h
    · next key rest hkey =>
      split at h
      · cases h
      · next value rest' hvalue =>
        split at h
        · cases h
          exact ⟨_, _, rest, rfl, hkey⟩
        · obtain ⟨⟨others, _⟩, -, hsome⟩ := Option.map_eq_some_iff.1 h
          cases hsome
          exact ⟨_, others, rest, rfl, hkey⟩
        · cases h

/-- No value is read as an object that holds an embedded text and nothing else. -/
theorem ne_embeddingKey_of_value? {cs : List Char} {key : String} {value : Json}
    (h : value? fuel depth cs = some (.object [(key, value)], left)) : key ≠ embeddingKey := by
  induction fuel using Nat.strongRecOn generalizing depth cs left with
  | ind fuel ih =>
    cases fuel with
    | zero => cases h
    | succ fuel =>
      obtain hnil | ⟨rest, hembedded⟩ | ⟨fewer, rest, found, hopens, hmembers, hsorted⟩ :=
        cases_of_value?_object h
      · cases hnil
      · obtain ⟨fewer, text, after, rfl, -, hvalue⟩ := exists_of_embedded? hembedded
        exact ih fewer (by omega) hvalue
      · obtain ⟨first, others, after, rfl, hkey⟩ := exists_key_of_members? hmembers
        have hfirst : first.1 = key :=
          Entries.eq_of_sorted_eq_singleton hsorted.symm List.mem_cons_self
        rw [opensEmbedded, hkey, Option.any_some, decide_eq_false_iff_not] at hopens
        exact hfirst ▸ hopens

theorem exists_string_of_chars {value : Json} {tail : List Char} (h : value.chars = '"' :: tail) :
    ∃ text, value = .string text := by
  cases value with
  | string text => exact ⟨text, rfl⟩
  | null => cases h
  | bool b =>
    cases b with
    | false => cases h
    | true => cases h
  | number n =>
    obtain ⟨c, others, hchars, hopens⟩ := exists_chars_number n
    rw [chars, hchars] at h
    exact absurd (List.cons.inj h).1 (ne_of_opensNumber hopens (by decide))
  | array items =>
    cases items with
    | nil => cases h
    | cons item items => cases h
  | object members =>
    cases members with
    | nil => cases h
    | cons member members => cases h

/-- An embedded text is the only member. -/
theorem eq_nil_of_embeddedText? {key : String} {value : Json} {members : List (String × Json)}
    {text : List Char}
    (h : embeddedText? (stringChars key ++ ':' :: (value.chars ++ (charsMembers members ++ rest))) =
      some (text, left)) : left = rest ∧ members = [] := by
  obtain ⟨c, tail, hchars, hopens⟩ := exists_chars value
  have htoken : toToken (value.chars ++ (charsMembers members ++ rest)) =
      value.chars ++ (charsMembers members ++ rest) := by
    rw [hchars, List.cons_append, toToken_cons (isSpace_of_opensValue hopens)]
  rw [embeddedText?, key?_stringChars] at h
  simp only [Option.bind_eq_bind, Option.bind_some, htoken] at h
  obtain ⟨⟨found, after⟩, htext, hclose⟩ := Option.bind_eq_some_iff.1 h
  have hquote : c = '"' := by
    rw [hchars, List.cons_append] at htext
    unfold text? at htext
    split at htext
    · next heq => exact (List.cons.inj heq).1
    · cases htext
  obtain ⟨string, rfl⟩ := exists_string_of_chars (hquote ▸ hchars)
  rw [chars, text?_stringChars] at htext
  cases htext
  cases members with
  | nil =>
    have hend : toToken (charsMembers [] ++ rest) = '\x7d' :: rest := toToken_cons (by decide)
    simp only [hend] at hclose
    cases hclose
    exact ⟨rfl, rfl⟩
  | cons member members =>
    have hcomma : toToken (charsMembers (member :: members) ++ rest) =
      ',' :: (stringChars member.1 ++ ':' :: (member.2.chars ++ charsMembers members) ++ rest) :=
      toToken_cons (by decide)
    simp only [hcomma] at hclose
    cases hclose

end Reader

/-! ## Values -/

/-- Nothing is read without fuel, so a value stops if it does with some. -/
theorem stops_of_succ {value : Json}
    (h : ∀ fuel depth rest found left, EndsNumber rest →
      value? (fuel + 1) depth (value.chars ++ rest) = some (found, left) →
        left = rest ∧ (found = value → Legible depth value)) : value.Stops
  | 0, _, _, _, _, _, hread => nomatch hread
  | fuel + 1, depth, rest, found, left, hrest, hread => h fuel depth rest found left hrest hread

theorem stops_number (n : Number) : (number n).Stops := by
  refine stops_of_succ fun fuel depth rest found left hrest hread => ?_
  rw [chars, value?_number] at hread
  obtain ⟨⟨other, after⟩, hnumber, hsome⟩ := Option.map_eq_some_iff.1 hread
  cases hsome
  obtain ⟨rfl, hback⟩ := number?_chars_append hrest hnumber
  refine ⟨rfl, fun hsame => .of_readsBack (hback ?_)⟩
  cases hsame
  rfl

theorem stops_array {items : List Json} (h : ∀ item ∈ items, item.Stops) :
    (array items).Stops := by
  refine stops_of_succ fun fuel depth rest found left hrest hread => ?_
  cases items with
  | nil =>
    cases depth with
    | zero => cases hread
    | succ depth =>
      cases hread
      exact ⟨rfl, fun _ => .array (List.forall_mem_nil _)⟩
  | cons item items =>
    cases depth with
    | zero => cases hread
    | succ depth =>
      rw [chars, List.cons_append, List.append_assoc, value?_bracket] at hread
      obtain ⟨⟨others, after⟩, hitems, hsome⟩ := Option.map_eq_some_iff.1 hread
      cases hsome
      obtain ⟨rfl, hlegible⟩ := items?_stops h hitems
      exact ⟨rfl, fun hsame => .array (hlegible (Json.array.inj hsame))⟩

theorem stops_object {members : List (String × Json)} (h : ∀ member ∈ members, member.2.Stops) :
    (object members).Stops := by
  refine stops_of_succ fun fuel depth rest found left hrest hread => ?_
  cases members with
  | nil =>
    cases depth with
    | zero => cases hread
    | succ depth =>
      cases hread
      exact ⟨rfl, fun _ => .object .nil nofun (List.forall_mem_nil _)⟩
  | cons member members =>
    cases depth with
    | zero => cases hread
    | succ depth =>
      rw [chars, List.cons_append, List.append_assoc, List.cons_append, List.append_assoc,
        value?_brace] at hread
      split at hread
      · next hkey =>
        obtain ⟨fewer, text, after, rfl, htext, hvalue⟩ := exists_of_embedded? hread
        obtain ⟨rfl, rfl⟩ := eq_nil_of_embeddedText? htext
        -- The embedded text may be of an object, but not of the one that it is embedded in.
        refine ⟨rfl, fun hsame => absurd hkey ?_⟩
        exact ne_embeddingKey_of_value? (hsame ▸ hvalue)
      · next hkey =>
        obtain ⟨⟨others, after⟩, hmembers, hsome⟩ := Option.map_eq_some_iff.1 hread
        cases hsome
        obtain ⟨rfl, hkeys, hlegible⟩ := members?_stops h hmembers
        refine ⟨rfl, fun hsame => ?_⟩
        have hsorted := Json.object.inj hsame
        have hordered := hsorted ▸ Entries.increasing_sorted others
        refine .object hordered ?_ (hlegible (Entries.eq_of_sorted_eq hsorted hkeys))
        intro first hfirst
        cases hfirst
        exact hkey

mutual

/-- Whatever is read of a value's text ends where that ends, and nothing but a legible value is read
as itself. -/
theorem stops : (value : Json) → value.Stops
  | .null => stops_of_succ fun fuel depth rest found left _ hread => by
    rw [value?_null] at hread
    cases hread
    exact ⟨rfl, fun _ => .null⟩
  | .bool b => stops_of_succ fun fuel depth rest found left _ hread => by
    rw [value?_bool] at hread
    cases hread
    exact ⟨rfl, fun _ => .bool b⟩
  | .number n => stops_number n
  | .string text => stops_of_succ fun fuel depth rest found left _ hread => by
    rw [chars, value?_string] at hread
    cases hread
    exact ⟨rfl, fun _ => .string text⟩
  | .array items => stops_array (stopsItems items)
  | .object members => stops_object (stopsMembers members)

theorem stopsItems : (items : List Json) → ∀ item ∈ items, item.Stops
  | [] => List.forall_mem_nil _
  | item :: items => List.forall_mem_cons.2 ⟨stops item, stopsItems items⟩

theorem stopsMembers : (members : List (String × Json)) → ∀ member ∈ members, member.2.Stops
  | [] => List.forall_mem_nil _
  | (_, value) :: members => List.forall_mem_cons.2 ⟨stops value, stopsMembers members⟩

end

/-- The values that are read back from their texts are the legible ones. -/
theorem ofText?_text_iff {value : Json} :
    ofText? value.text = some value ↔ Legible depthLimit value := by
  refine ⟨fun h => ?_, ofText?_text⟩
  rw [ofText?, text, String.toList_ofList, nested?, Nat.sub_zero] at h
  split at h
  · next found rest hread =>
    obtain ⟨-, hsame⟩ := Option.ite_none_right_eq_some.1 h
    rw [← List.append_nil value.chars] at hread
    exact (stops value _ _ [] found rest endsNumber_nil hread).2 (Option.some.inj hsame)
  · cases h

end TableFeed.Json
