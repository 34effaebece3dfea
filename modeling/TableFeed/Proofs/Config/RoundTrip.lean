import TableFeed.Config.Reader
import TableFeed.Proofs.Json.Trees

/-!
# Reading what was written

The tree of a written configuration has all nine options as members (`Config.toJson_toDocument`),
and each member is read as the option that it was written from.  So a configuration is read again
as itself, however it came about: options that a document leaves out and every spelling of its
topic map are read the same after they were written in full (`Config.read_toJson`).
-/

namespace TableFeed

/-! ## Values that are read as they were written -/

namespace Json

theorem asText?_string (text : String) : asText? (.string text) = some text := rfl

variable {β : Type} {read : Json → Option β} {write : β → Json}

theorem list?_map (h : ∀ item, read (write item) = some item) (items : List β) :
    list? read (.array (items.map write)) = some items := by
  rw [list?]
  induction items with
  | nil => rfl
  | cons item rest ih => rw [List.map_cons, List.mapM_cons, h, ih]; rfl

theorem map?_map (h : ∀ value, read (write value) = some value) (entries : List (String × β)) :
    map? read (.object (entries.map fun entry => (entry.1, write entry.2))) = some entries := by
  rw [map?]
  induction entries with
  | nil => rfl
  | cons entry rest ih => rw [List.map_cons, List.mapM_cons, h, ih]; rfl

theorem optional?_elim (h : ∀ value, read (write value) = some value)
    (hnull : ∀ value, (write value).isNull = false) (value : Option β) :
    optional? read (value.elim .null write) = some value := by
  cases value with
  | none => rfl
  | some value => rw [Option.elim_some, optional?, hnull, if_neg nofun, h, Option.map_some]

end Json

theorem Mode.ofName?_name (mode : Mode) : ofName? mode.name = some mode := by
  cases mode with
  | normal => rfl
  | changeEvents => rfl

theorem Evolution.ofName?_name (evolution : Evolution) :
    ofName? evolution.name = some evolution := by
  cases evolution with
  | disabled => rfl
  | basic => rfl

namespace Config

open Json

/-- Bindings as a map from topics to tables. -/
def tablesTree (bindings : List (String × String)) : Json :=
  .object (bindings.map fun entry => (entry.1, .string entry.2))

/-- The options of a written configuration, in the order of their names. -/
def members (c : Config) : List (String × Json) :=
  [("converter_mode", .string c.mode.name),
    ("database", .string c.database),
    ("delete_sign", .object [
      ("false_value", .string c.deleteSign.falseValue),
      ("field", .string c.deleteSign.field),
      ("true_value", .string c.deleteSign.trueValue)]),
    ("line_separator", .string c.lineSeparator),
    ("name", .string c.name),
    ("schema_evolution", .string c.evolution.name),
    ("topic2table", tablesTree c.topicTables.entries),
    ("topics", .array (c.topics.map .string)),
    ("topics_regex", c.topicsRegex.elim .null .string)]

/-- The options are written in another order; the tree has them sorted. -/
theorem toJson_toDocument (c : Config) : c.toDocument.toJson = .object c.members := by
  have hregex : (c.topicsRegex.elim .null .string : Document).toJson =
      c.topicsRegex.elim .null .string := by
    cases c.topicsRegex with
    | none => rfl
    | some text => rfl
  have htopics : (Document.list (c.topics.map .string)).toJson =
      .array (c.topics.map .string) := by
    rw [Document.toJson, Document.toJsonItems_map]
    rfl
  have htables := Document.toJson_record_map .string c.topicTables
  rw [toDocument, Document.toJson]
  simp only [Document.toJsonMembers, hregex, htopics, htables]
  simp only [Document.toJson, Document.toJsonMembers, Document.string, members, tablesTree,
    Entries.sorted, Entries.insert, List.foldl_cons, List.foldl_nil, String.reduceLT,
    String.reduceEq, ↓reduceIte]

/-! ## Options -/

theorem readTopicMap_tablesTree (bindings : List (String × String)) :
    readTopicMap (tablesTree bindings) = .ok (.ofList bindings) := by
  have hmap : map? asText? (tablesTree bindings) = some bindings := map?_map asText?_string bindings
  rw [tablesTree] at hmap ⊢
  rw [readTopicMap, hmap]
  · nofun
  · nofun

/-! ## Configurations -/

theorem foldlM_set_members (c : Config) : c.members.foldlM Draft.set Draft.initial =
    .ok ⟨some c.name, some c.database, { c with name := "", database := "" }⟩ := by
  have htopics : list? asText? (.array (c.topics.map .string)) = some c.topics :=
    list?_map asText?_string c.topics
  have hregex : optional? asText? (c.topicsRegex.elim .null .string) = some c.topicsRegex :=
    optional?_elim asText?_string (fun _ => rfl) c.topicsRegex
  simp only [members, List.foldlM_cons, List.foldlM_nil, Draft.set, asText?, asChoice?,
    Mode.ofName?_name, Evolution.ofName?_name, htopics, hregex, readTopicMap_tablesTree,
    SortedMap.ofList_entries, orMalformed, Option.bind_some, Option.elim_some, bind, Except.bind,
    pure, Except.pure]
  rfl

/-- A configuration is read from its tree as itself. -/
theorem read_toJson_toDocument (c : Config) : read c.toDocument.toJson = .ok c := by
  have hfields : (Json.object c.members).fields? memberNames = some c.members := rfl
  rw [toJson_toDocument, read, hfields]
  change (c.members.foldlM Draft.set Draft.initial >>= _) = _
  rw [foldlM_set_members]
  rfl

/-- Writing keeps all options of a configuration, also of one that was itself read: whichever
options were left out there and however its topic map was spelled, it is read again with the same
problems and the same table for each topic. -/
theorem read_toJson :
    (∀ c : Config, read c.toDocument.toJson = .ok c) ∧
      ∀ value c, read value = .ok c → ∃ again, read c.toDocument.toJson = .ok again ∧
        again = c ∧ again.validate = c.validate ∧
        ∀ topic, again.tableFor topic = c.tableFor topic :=
  ⟨read_toJson_toDocument, fun _ c _ => ⟨c, read_toJson_toDocument c, rfl, rfl, fun _ => rfl⟩⟩

theorem read_toJson_compact : ∃ c,
    read (.object [("database", .string "shop"), ("name", .string "feed"),
      ("topic2table", .string "shop.orders : sales")]) = .ok c ∧
    c.tableFor "shop.orders" = .ok "sales" ∧
    ∃ again, read c.toDocument.toJson = .ok again ∧ again = c ∧ again.validate = c.validate ∧
      ∀ topic, again.tableFor topic = c.tableFor topic := by
  let c := { minimal "feed" "shop" with topicTables := .ofList [("shop.orders", "sales")] }
  have hread : read (.object [("database", .string "shop"), ("name", .string "feed"),
      ("topic2table", .string "shop.orders : sales")]) = .ok c := by
    decide +kernel
  exact ⟨c, hread, by decide +kernel, read_toJson.2 _ c hread⟩

end Config

end TableFeed
