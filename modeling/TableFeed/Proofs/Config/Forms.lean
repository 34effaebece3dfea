import TableFeed.Proofs.Config.RoundTrip
import TableFeed.Proofs.Config.TopicMap
import TableFeed.Proofs.Except

/-!
# Forms of the topic map in a configuration

A configuration without its topic map is a frame, and any value can be filled in.  What is read
from the filled frame depends on the value through the map that it stands for only
(`Config.read_fill_congr`), and the map is part of the configuration as it was read
(`Config.topicTables_of_read_fill`).

So a configuration may give its topic map as a text or as a map (`TopicMap.parse_grammar`).
-/

namespace TableFeed

/-! ## One member among others -/

namespace Json

/-- A value at a known name in an object is one of its members, at one place whatever it is, or
some name comes twice. -/
theorem fields?_object {names : List String} {name : String} (hknown : names.contains name = true)
    (before after : List (String × Json)) :
    (∀ value, (object (before ++ (name, value) :: after)).fields? names = none) ∨
      ∃ front back, name ∉ back.map Prod.fst ∧
        ∀ value, (object (before ++ (name, value) :: after)).fields? names =
          some (front ++ (name, value) :: back) := by
  let isKnown (member : String × Json) : Bool := names.contains member.1
  have hmembers (value : Json) : (before ++ (name, value) :: after).filter isKnown =
      before.filter isKnown ++ (name, value) :: after.filter isKnown := by
    have hmember : isKnown (name, value) = true := hknown
    rw [List.filter_append, List.filter_cons_of_pos hmember]
  have hnames (value : Json) : ((before ++ (name, value) :: after).filter isKnown).map Prod.fst =
      (before.filter isKnown).map Prod.fst ++ name :: (after.filter isKnown).map Prod.fst := by
    rw [hmembers, List.map_append, List.map_cons]
  by_cases hnodup : ((before.filter isKnown).map Prod.fst ++
      name :: (after.filter isKnown).map Prod.fst).Nodup
  · refine .inr ⟨before.filter isKnown, after.filter isKnown, ?_, fun value => ?_⟩
    · exact (List.nodup_cons.1 (List.nodup_append.1 hnodup).2.1).1
    · exact (if_pos ((hnames value).symm ▸ hnodup)).trans (congrArg some (hmembers value))
  · exact .inl fun value => if_neg (hnames value ▸ hnodup)

/-- The last item of a full array is the member with the last name. -/
theorem fields?_array {names : List String} {before : List Json}
    (hlength : names.length = before.length) (name : String) (value : Json) :
    (array (before ++ [value])).fields? (names ++ [name]) =
      some (names.zip before ++ [(name, value)]) := by
  rw [fields?, List.zip_append hlength]
  rfl

end Json

namespace Config

open Json

/-! ## Frames -/

/-- A configuration but for its topic map. -/
inductive Frame where
  /-- The other options by name. -/
  | named (before after : List (String × Json))
  /-- The other options in order; the topic map is the last one. -/
  | ordered (before : List Json) (length_before : before.length + 1 = memberNames.length)

/-- A frame with a value in the place of the topic map. -/
def Frame.fill : Frame → Json → Json
  | named before after, tables => .object (before ++ ("topic2table", tables) :: after)
  | ordered before _, tables => .array (before ++ [tables])

/-- A filled frame has the topic map among its members just once, or a member comes twice. -/
theorem Frame.fields?_fill (frame : Frame) :
    (∀ tables, (frame.fill tables).fields? memberNames = none) ∨
      ∃ front back, "topic2table" ∉ back.map Prod.fst ∧
        ∀ tables, (frame.fill tables).fields? memberNames =
          some (front ++ ("topic2table", tables) :: back) := by
  cases frame with
  | named before after => exact fields?_object (by rfl) before after
  | ordered before hlength =>
    have hnames : memberNames = memberNames.dropLast ++ ["topic2table"] := rfl
    have hothers : memberNames.dropLast.length = before.length := (Nat.succ.inj hlength).symm
    refine .inr ⟨memberNames.dropLast.zip before, [], List.not_mem_nil, fun tables => ?_⟩
    rw [hnames]
    exact fields?_array hothers "topic2table" tables

theorem Frame.fits_fill (frame : Frame) (tables : Json) :
    (frame.fill tables).fits memberNames = true := by
  cases frame with
  | named before after => rfl
  | ordered before hlength =>
    refine decide_eq_true ?_
    rw [List.length_append]
    exact Nat.le_of_eq hlength

/-! ## The topic map among the options -/

/-- A draft with the topic map read. -/
theorem Draft.set_topicTables (d : Draft) (tables : Json) :
    d.set ("topic2table", tables) =
      readTopicMap tables >>= fun map => .ok { d with rest.topicTables := map } :=
  rfl

/-- Other options leave the topic map as it is. -/
theorem Draft.topicTables_of_set {d next : Draft} {member : String × Json}
    (hother : member.1 ≠ "topic2table") (h : d.set member = .ok next) :
    next.rest.topicTables = d.rest.topicTables := by
  unfold set at h
  split at h
  case h_9 hname => exact absurd hname hother
  case h_10 =>
    cases h
    rfl
  all_goals
    obtain ⟨_, -, h⟩ := exists_of_bind_eq_ok h
    cases h
    rfl

theorem Draft.topicTables_of_foldlM {members : List (String × Json)} {d next : Draft}
    (hother : "topic2table" ∉ members.map Prod.fst) (h : members.foldlM set d = .ok next) :
    next.rest.topicTables = d.rest.topicTables := by
  induction members generalizing d with
  | nil =>
    cases h
    rfl
  | cons member rest ih =>
    rw [List.map_cons, List.mem_cons, not_or] at hother
    rw [List.foldlM_cons] at h
    obtain ⟨mid, hset, hrest⟩ := exists_of_bind_eq_ok h
    rw [ih hother.2 hrest, topicTables_of_set (Ne.symm hother.1) hset]

theorem Draft.topicTables_of_finish {d : Draft} {c : Config} (h : d.finish = .ok c) :
    c.topicTables = d.rest.topicTables := by
  unfold finish at h
  split at h
  · cases h
    rfl
  · cases h

/-- In a configuration two values for the topic map that are read alike are interchangeable. -/
theorem read_fill_congr {left right : Json} (h : readTopicMap left = readTopicMap right)
    (frame : Frame) : read (frame.fill left) = read (frame.fill right) := by
  rw [read, read, frame.fits_fill, frame.fits_fill]
  rcases frame.fields?_fill with hnone | ⟨front, back, -, hfields⟩
  · rw [hnone, hnone]
  · have hset (d : Draft) : d.set ("topic2table", left) = d.set ("topic2table", right) := by
      rw [Draft.set_topicTables, Draft.set_topicTables, h]
    simp only [hfields, List.foldlM_append, List.foldlM_cons, hset]

/-- A configuration has the topic map that was filled in. -/
theorem topicTables_of_read_fill {frame : Frame} {tables : Json} {c : Config}
    (h : read (frame.fill tables) = .ok c) : readTopicMap tables = .ok c.topicTables := by
  rw [read, frame.fits_fill] at h
  rcases frame.fields?_fill with hnone | ⟨front, back, hback, hfields⟩
  · rw [hnone] at h
    cases h
  · simp only [hfields, List.foldlM_append, List.foldlM_cons] at h
    obtain ⟨draft, hfold, hfinish⟩ := exists_of_bind_eq_ok h
    obtain ⟨_, -, hfold⟩ := exists_of_bind_eq_ok hfold
    obtain ⟨_, hset, hrest⟩ := exists_of_bind_eq_ok hfold
    rw [Draft.set_topicTables] at hset
    obtain ⟨map, hmap, hset⟩ := exists_of_bind_eq_ok hset
    cases hset
    rw [Draft.topicTables_of_finish hfinish, Draft.topicTables_of_foldlM hback hrest, hmap]

theorem tableFor_congr {c d : Config} (h : c.topicTables = d.topicTables) (topic : String) :
    c.tableFor topic = d.tableFor topic := by
  rw [tableFor, tableFor, h]

end Config

namespace TopicMap

open Config

theorem readTopicMap_of_parse {text : String} {map : SortedMap String} (h : parse text = .ok map) :
    readTopicMap (.string text) = .ok map := by
  rw [readTopicMap, not_isBlankText_of_parse h, if_neg Bool.false_ne_true, h]
  rfl

/-- A text is a topic map by the grammar of pairs, and then it has their bindings.  A map whose
parts can stand in pairs is written so in any order and with any blanks, and a configuration with
the text has the same tables as one with the map. -/
theorem parse_grammar :
    (∀ text,
      ((∃ map, parse text = .ok map) ↔
        (∀ pair ∈ pairsOf text, IsPair pair) ∧ ((pairsOf text).map topicOf).Nodup) ∧
      ∀ map, parse text = .ok map → ∀ topic table, map.get? topic = some table ↔
        ∃ pair ∈ pairsOf text, topicOf pair = topic ∧ tableOf pair = table) ∧
    ∀ (map : SortedMap String) (written : List Written) (bindings : List (String × String)),
      map.entries ≠ [] → (∀ entry ∈ map.entries, IsPart entry.1 ∧ IsPart entry.2) →
      (written.map Written.binding).Perm map.entries → bindings.Perm map.entries →
      parse (render written) = .ok map ∧
      (∀ frame : Frame,
        read (frame.fill (.string (render written))) = read (frame.fill (tablesTree bindings))) ∧
      ∀ (frame other : Frame) (compact mapped : Config),
        read (frame.fill (.string (render written))) = .ok compact →
        read (other.fill (tablesTree bindings)) = .ok mapped →
        compact.topicTables = map ∧ ∀ topic, compact.tableFor topic = mapped.tableFor topic := by
  refine ⟨fun text => ⟨⟨?_, ?_⟩, fun map h => get?_of_parse h⟩, ?_⟩
  · rintro ⟨map, h⟩
    obtain ⟨hpairs, hnodup, -⟩ := parse_eq_ok_iff.1 h
    exact ⟨hpairs, hnodup⟩
  · rintro ⟨hpairs, hnodup⟩
    exact ⟨_, parse_eq_ok_iff.2 ⟨hpairs, hnodup, rfl⟩⟩
  · intro map written bindings hne hparts hwritten hbindings
    have hparse := parse_render hne hparts hwritten
    have htext := readTopicMap_of_parse hparse
    have htree := readTopicMap_tablesTree bindings
    rw [SortedMap.ofList_of_perm hbindings] at htree
    refine ⟨hparse, read_fill_congr (htext.trans htree.symm), ?_⟩
    intro frame other compact mapped hcompact hmapped
    have hcompactTables := topicTables_of_read_fill hcompact
    have hmappedTables := topicTables_of_read_fill hmapped
    rw [htext] at hcompactTables
    rw [htree] at hmappedTables
    cases hcompactTables
    exact ⟨rfl, tableFor_congr (Except.ok.inj hmappedTables)⟩

theorem parse_grammar_spaced :
    parse "shop.orders : sales, people:users" =
      .ok (.ofList [("people", "users"), ("shop.orders", "sales")]) ∧
    ∃ compact mapped,
      read (.object [("name", .string "feed"), ("database", .string "shop"),
        ("topic2table", .string "shop.orders : sales, people:users")]) = .ok compact ∧
      read (.object [("name", .string "feed"), ("database", .string "shop"),
        ("topic2table", .object [("people", .string "users"),
          ("shop.orders", .string "sales")])]) = .ok mapped ∧
      compact.tableFor "shop.orders" = .ok "sales" ∧
      ∀ topic, compact.tableFor topic = mapped.tableFor topic := by
  let map : SortedMap String := .ofList [("people", "users"), ("shop.orders", "sales")]
  let written : List Written :=
    [⟨"shop.orders", "sales", .spaces 0 1, .spaces 1 0⟩,
      ⟨"people", "users", .spaces 1 0, .spaces 0 0⟩]
  let frame := Frame.named [("name", .string "feed"), ("database", .string "shop")] []
  let c := { minimal "feed" "shop" with topicTables := map }
  have hgrammar := parse_grammar.2 map written map.entries (by decide +kernel) (by decide +kernel)
    (by decide +kernel) (.refl _)
  have htext : render written = "shop.orders : sales, people:users" := by decide +kernel
  rw [htext] at hgrammar
  have hcompact : read (frame.fill (.string "shop.orders : sales, people:users")) = .ok c := by
    decide +kernel
  have hmapped : read (frame.fill (tablesTree map.entries)) = .ok c := by decide +kernel
  exact ⟨hgrammar.1, c, c, hcompact, hmapped, by decide +kernel,
    (hgrammar.2.2 frame frame c c hcompact hmapped).2⟩

end TopicMap

end TableFeed
