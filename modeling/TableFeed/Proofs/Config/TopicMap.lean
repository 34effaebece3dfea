import TableFeed.Config.TopicMap
import TableFeed.Proofs.Entries
import TableFeed.Proofs.Text.Pieces

/-!
# The compact topic map and its pairs

A text is a compact topic map when each of its comma separated pairs has one colon between two
parts that are not blank, and no topic comes twice (`parse_eq_ok_iff`); it binds the topics of its
pairs to their tables (`get?_of_parse`).

A map can be written in that form when its parts are trimmed and free of both marks.  The order of
the pairs and the blanks around the parts do not matter then (`parse_render`).
-/

namespace TableFeed.TopicMap

/-! ## Pairs -/

/-- What stands before the first colon of a pair, without the blanks around it. -/
def topicOf (pair : List Char) : String :=
  .ofList (Text.trimChars (pair.takeWhile (· ≠ ':')))

/-- What stands after the first colon of a pair, without the blanks around it. -/
def tableOf (pair : List Char) : String :=
  .ofList (Text.trimChars (pair.dropWhile (· ≠ ':')).tail)

/-- A pair has exactly one colon and a text that is not blank on each side of it. -/
structure IsPair (pair : List Char) : Prop where
  colon : pair.count ':' = 1
  topic : topicOf pair ≠ ""
  table : tableOf pair ≠ ""

/-- The pairs of a text are what stands between its commas. -/
def pairsOf (text : String) : List (List Char) :=
  text.toList.splitOn ','

/-- The binding that a pair writes. -/
def bindingOf (pair : List Char) : String × String :=
  (topicOf pair, tableOf pair)

theorem pair?_of_isPair {pair : List Char} (h : IsPair pair) :
    pair? pair = some (bindingOf pair) := by
  have htopic := mt String.ofList_eq_empty_iff.2 h.topic
  have htable := mt String.ofList_eq_empty_iff.2 h.table
  rw [pair?, Text.pieces_of_count_eq_one h.colon]
  exact if_neg (not_or.2 ⟨htopic, htable⟩)

theorem pair?_of_not_isPair {pair : List Char} (h : ¬ IsPair pair) : pair? pair = none := by
  by_cases hcolon : pair.count ':' = 1
  · rw [pair?, Text.pieces_of_count_eq_one hcolon]
    refine if_pos (Decidable.or_iff_not_not_and_not.2 fun hsides => h ⟨hcolon, ?_, ?_⟩)
    · exact mt String.ofList_eq_empty_iff.1 hsides.1
    · exact mt String.ofList_eq_empty_iff.1 hsides.2
  · have hlength := Text.length_pieces ':' pair
    rw [pair?]
    split
    · next hpieces =>
      rw [hpieces, List.length_cons, List.length_singleton] at hlength
      omega
    · rfl

/-! ## Maps of pairs -/

/-- Pairs are added when they are pairs with different topics, none of which the map has. -/
theorem addPairs_eq_ok_iff {pairs : List (List Char)} {map result : SortedMap String} :
    addPairs map pairs = .ok result ↔
      (∀ pair ∈ pairs, IsPair pair) ∧ (pairs.map topicOf).Nodup ∧
        (∀ pair ∈ pairs, map.get? (topicOf pair) = none) ∧
        result = (pairs.map bindingOf).foldl
          (fun map binding => map.insert binding.1 binding.2) map := by
  induction pairs generalizing map with
  | nil =>
    constructor
    · intro h
      cases h
      exact ⟨nofun, .nil, nofun, rfl⟩
    · rintro ⟨-, -, -, rfl⟩
      rfl
  | cons pair rest ih =>
    rw [addPairs, List.forall_mem_cons, List.forall_mem_cons, List.map_cons, List.nodup_cons]
    by_cases hpair : IsPair pair
    · rw [pair?_of_isPair hpair]
      change (if (map.get? (topicOf pair)).isSome then _
        else addPairs (map.insert (topicOf pair) (tableOf pair)) rest) = .ok result ↔ _
      cases hknown : map.get? (topicOf pair) with
      | some table => exact iff_of_false nofun fun h => nomatch h.2.2.1.1
      | none =>
        -- The topics of the rest are new to the larger map when they are new and not this one.
        have hnew : (∀ other ∈ rest,
            (map.insert (topicOf pair) (tableOf pair)).get? (topicOf other) = none) ↔
              topicOf pair ∉ rest.map topicOf ∧
                ∀ other ∈ rest, map.get? (topicOf other) = none := by
          simp only [SortedMap.get?_insert_eq_none_iff, forall_and, List.mem_map, not_exists,
            not_and, ne_eq]
        rw [Option.isSome_none, if_neg nofun, ih, hnew, List.map_cons, List.foldl_cons]
        constructor
        · rintro ⟨hpairs, hnodup, ⟨hnot, hnone⟩, hresult⟩
          exact ⟨⟨hpair, hpairs⟩, ⟨hnot, hnodup⟩, ⟨rfl, hnone⟩, hresult⟩
        · rintro ⟨⟨-, hpairs⟩, ⟨hnot, hnodup⟩, ⟨-, hnone⟩, hresult⟩
          exact ⟨hpairs, hnodup, ⟨hnot, hnone⟩, hresult⟩
    · rw [pair?_of_not_isPair hpair]
      exact iff_of_false nofun fun h => hpair h.1.1

/-- A text writes a map when it consists of pairs with different topics, and then the map has the
bindings of the pairs. -/
theorem parse_eq_ok_iff {text : String} {map : SortedMap String} :
    parse text = .ok map ↔ (∀ pair ∈ pairsOf text, IsPair pair) ∧
      ((pairsOf text).map topicOf).Nodup ∧ map = .ofList ((pairsOf text).map bindingOf) := by
  rw [parse, Text.pieces_eq_splitOn, addPairs_eq_ok_iff]
  constructor
  · rintro ⟨hpairs, hnodup, -, hmap⟩
    exact ⟨hpairs, hnodup, hmap⟩
  · rintro ⟨hpairs, hnodup, hmap⟩
    exact ⟨hpairs, hnodup, fun _ _ => rfl, hmap⟩

/-- The map of a text binds just the topics of its pairs, each to the table of its pair. -/
theorem get?_of_parse {text : String} {map : SortedMap String} (h : parse text = .ok map)
    (topic table : String) :
    map.get? topic = some table ↔
      ∃ pair ∈ pairsOf text, topicOf pair = topic ∧ tableOf pair = table := by
  obtain ⟨-, hnodup, rfl⟩ := parse_eq_ok_iff.1 h
  have hkeys : (((pairsOf text).map bindingOf).map Prod.fst).Nodup := by
    rwa [List.map_map]
  rw [SortedMap.get?_ofList_eq_some_iff hkeys, List.mem_map]
  refine exists_congr fun pair => and_congr_right fun _ => ?_
  rw [bindingOf, Prod.mk.injEq]

/-- A text that writes a map is not blank, as its first pair has a colon. -/
theorem not_isBlankText_of_parse {text : String} {map : SortedMap String}
    (h : parse text = .ok map) : Text.isBlankText text = false := by
  obtain ⟨hpairs, -, -⟩ := parse_eq_ok_iff.1 h
  refine Bool.eq_false_iff.2 fun hblank => ?_
  have hall : ∀ c ∈ text.toList, Text.isBlank c = true := List.all_eq_true.1 hblank
  have hcomma : ',' ∉ text.toList := fun hmem => nomatch hall ',' hmem
  have hpair : IsPair text.toList := by
    refine hpairs text.toList ?_
    rw [pairsOf, List.splitOn_eq_singleton hcomma]
    exact List.mem_singleton_self _
  have hcolon : ':' ∈ text.toList := List.count_pos_iff.1 (hpair.colon ▸ Nat.zero_lt_one)
  exact nomatch hall ':' hcolon

/-! ## Writing maps -/

/-- Blanks before and after a text. -/
structure Padding where
  before : List Char
  after : List Char
  blank_before : ∀ c ∈ before, Text.isBlank c = true
  blank_after : ∀ c ∈ after, Text.isBlank c = true

/-- Spaces before and after a text. -/
def Padding.spaces (before after : Nat) : Padding where
  before := List.replicate before ' '
  after := List.replicate after ' '
  blank_before _ h := List.eq_of_mem_replicate h ▸ rfl
  blank_after _ h := List.eq_of_mem_replicate h ▸ rfl

/-- A text with blanks around it. -/
def Padding.around (p : Padding) (text : String) : List Char :=
  p.before ++ text.toList ++ p.after

/-- A binding and the blanks around its parts. -/
structure Written where
  topic : String
  table : String
  aroundTopic : Padding
  aroundTable : Padding

namespace Written

/-- What is bound. -/
def binding (w : Written) : String × String :=
  (w.topic, w.table)

/-- The pair for a binding. -/
def pair (w : Written) : List Char :=
  w.aroundTopic.around w.topic ++ ':' :: w.aroundTable.around w.table

end Written

/-- Bindings as a text, separated by commas. -/
def render (written : List Written) : String :=
  .ofList ([','].intercalate (written.map Written.pair))

/-- A topic or table that stands in a pair just as it is. -/
structure IsPart (text : String) : Prop where
  trimmed : Text.trim text = text
  visible : Text.isBlankText text = false
  comma : ',' ∉ text.toList
  colon : ':' ∉ text.toList

instance (text : String) : Decidable (IsPart text) :=
  decidable_of_iff (Text.trim text = text ∧ Text.isBlankText text = false ∧
      ',' ∉ text.toList ∧ ':' ∉ text.toList)
    ⟨fun h => ⟨h.1, h.2.1, h.2.2.1, h.2.2.2⟩, fun h => ⟨h.trimmed, h.visible, h.comma, h.colon⟩⟩

section Rendering

variable {text : String} {w : Written}

theorem IsPart.ne_empty (h : IsPart text) : text ≠ "" := by
  rintro rfl
  exact nomatch h.visible

theorem Padding.trimChars_around (p : Padding) (h : IsPart text) :
    String.ofList (Text.trimChars (p.around text)) = text := by
  rw [around, Text.trimChars_padded p.blank_before p.blank_after]
  exact h.trimmed

theorem Padding.not_mem_around {p : Padding} {mark : Char} (hmark : Text.isBlank mark = false)
    (h : mark ∉ text.toList) : mark ∉ p.around text := by
  rw [around, List.mem_append, List.mem_append]
  rintro ((hbefore | htext) | hafter)
  · exact Bool.false_ne_true (hmark.symm.trans (p.blank_before mark hbefore))
  · exact h htext
  · exact Bool.false_ne_true (hmark.symm.trans (p.blank_after mark hafter))

/-- Both parts of a binding can be written. -/
def Written.Valid (w : Written) : Prop :=
  IsPart w.topic ∧ IsPart w.table

theorem Written.Valid.ne_colon (h : w.Valid) :
    ∀ c ∈ w.aroundTopic.around w.topic, decide (c ≠ ':') = true :=
  fun _ hc => decide_eq_true fun hcolon =>
    Padding.not_mem_around (by decide) h.1.colon (hcolon ▸ hc)

theorem topicOf_pair (h : w.Valid) : topicOf w.pair = w.topic := by
  rw [topicOf, Written.pair, List.takeWhile_append_of_pos h.ne_colon,
    List.takeWhile_cons_of_neg (by decide), List.append_nil]
  exact w.aroundTopic.trimChars_around h.1

theorem tableOf_pair (h : w.Valid) : tableOf w.pair = w.table := by
  rw [tableOf, Written.pair, List.dropWhile_append_of_pos h.ne_colon,
    List.dropWhile_cons_of_neg (by decide), List.tail_cons]
  exact w.aroundTable.trimChars_around h.2

theorem isPair_pair (h : w.Valid) : IsPair w.pair where
  colon := by
    have htopic := Padding.not_mem_around (p := w.aroundTopic) (by decide) h.1.colon
    have htable := Padding.not_mem_around (p := w.aroundTable) (by decide) h.2.colon
    rw [Written.pair, List.count_append, List.count_cons_self, List.count_eq_zero.2 htopic,
      List.count_eq_zero.2 htable]
  topic := by
    rw [topicOf_pair h]
    exact h.1.ne_empty
  table := by
    rw [tableOf_pair h]
    exact h.2.ne_empty

theorem bindingOf_pair (h : w.Valid) : bindingOf w.pair = w.binding := by
  rw [bindingOf, topicOf_pair h, tableOf_pair h, Written.binding]

theorem comma_not_mem_pair (h : w.Valid) : ',' ∉ w.pair := by
  rw [Written.pair, List.mem_append, List.mem_cons]
  rintro (htopic | hcolon | htable)
  · exact Padding.not_mem_around (by decide) h.1.comma htopic
  · exact nomatch hcolon
  · exact Padding.not_mem_around (by decide) h.2.comma htable

theorem pairsOf_render {written : List Written} (hne : written ≠ [])
    (h : ∀ w ∈ written, w.Valid) : pairsOf (render written) = written.map Written.pair := by
  rw [pairsOf, render, String.toList_ofList]
  refine List.splitOn_intercalate ',' (fun pair hpair => ?_) (mt List.map_eq_nil_iff.1 hne)
  obtain ⟨w, hw, rfl⟩ := List.mem_map.1 hpair
  exact comma_not_mem_pair (h w hw)

/-- A map is read from its bindings however they are ordered and spaced. -/
theorem parse_render {map : SortedMap String} {written : List Written} (hne : map.entries ≠ [])
    (hparts : ∀ entry ∈ map.entries, IsPart entry.1 ∧ IsPart entry.2)
    (hperm : (written.map Written.binding).Perm map.entries) :
    parse (render written) = .ok map := by
  have hvalid : ∀ w ∈ written, w.Valid := fun w hw =>
    hparts w.binding (hperm.mem_iff.1 (List.mem_map_of_mem hw))
  have hwritten : written ≠ [] := by
    rintro rfl
    exact hne hperm.nil_eq.symm
  have htopics : (written.map Written.pair).map topicOf =
      (written.map Written.binding).map Prod.fst := by
    rw [List.map_map, List.map_map]
    exact List.map_congr_left fun w hw => topicOf_pair (hvalid w hw)
  have hbindings : (written.map Written.pair).map bindingOf = written.map Written.binding := by
    rw [List.map_map]
    exact List.map_congr_left fun w hw => bindingOf_pair (hvalid w hw)
  rw [parse_eq_ok_iff, pairsOf_render hwritten hvalid, htopics, hbindings]
  refine ⟨fun pair hpair => ?_, ?_, (SortedMap.ofList_of_perm hperm).symm⟩
  · obtain ⟨w, hw, rfl⟩ := List.mem_map.1 hpair
    exact isPair_pair (hvalid w hw)
  · exact (hperm.map Prod.fst).nodup_iff.2 map.nodup_keys

end Rendering

end TableFeed.TopicMap
