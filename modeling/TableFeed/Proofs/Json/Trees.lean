import TableFeed.Json.Document
import TableFeed.Proofs.Entries

/-!
# Value trees

A value that is read again is mostly read as itself.  Only an object that opens with the key
of embedded texts stands for something else, so a value without such objects is settled
(`Json.resolve?_of_isPlain`).

The tree of a record has the trees of its members under their keys
(`Document.exists_toJson_record`), and where the members come from a map it keeps their order
(`Document.toJson_record_map`).
-/

namespace TableFeed

namespace Json

/-! ## Plain values -/

mutual

/-- Whether no object in a value opens with the key that marks an embedded text. -/
def isPlain : Json → Bool
  | .array items => isPlainItems items
  | .object ((key, value) :: rest) =>
    key ≠ Reader.embeddingKey && (isPlain value && isPlainMembers rest)
  | _ => true

/-- Whether items are plain. -/
def isPlainItems : List Json → Bool
  | [] => true
  | item :: rest => isPlain item && isPlainItems rest

/-- Whether the values of members are plain. -/
def isPlainMembers : List (String × Json) → Bool
  | [] => true
  | (_, value) :: rest => isPlain value && isPlainMembers rest

end

theorem isPlainMembers_of_object {members : List (String × Json)}
    (h : (object members).isPlain = true) : isPlainMembers members = true := by
  cases members with
  | nil => rfl
  | cons member rest => exact (Bool.and_eq_true_iff.1 h).2

theorem isPlain_of_lookup {members : List (String × Json)} (h : isPlainMembers members = true)
    {key : String} {value : Json} (hvalue : members.lookup key = some value) :
    value.isPlain = true := by
  induction members with
  | nil => cases hvalue
  | cons member rest ih =>
    obtain ⟨hmember, hrest⟩ := Bool.and_eq_true_iff.1 h
    rw [Entries.lookup_cons_ite] at hvalue
    split at hvalue
    · cases hvalue
      exact hmember
    · exact ih hrest hvalue

theorem isPlain_of_mem {items : List Json} (h : isPlainItems items = true) {value : Json}
    (hvalue : value ∈ items) : value.isPlain = true := by
  induction items with
  | nil => cases hvalue
  | cons item rest ih =>
    obtain ⟨hitem, hrest⟩ := Bool.and_eq_true_iff.1 h
    rcases List.mem_cons.1 hvalue with rfl | hmem
    · exact hitem
    · exact ih hrest hmem

mutual

/-- A plain value is read again as itself. -/
theorem resolve?_of_isPlain : (value : Json) → value.isPlain = true → value.resolve? = some value
  | .null, _ => rfl
  | .bool _, _ => rfl
  | .number _, _ => rfl
  | .string _, _ => rfl
  | .array items, h => by
    rw [resolve?, resolveItems?_of_isPlain items h]
    rfl
  | .object [], _ => rfl
  | .object ((key, value) :: rest), h => by
    obtain ⟨hopens, hparts⟩ := Bool.and_eq_true_iff.1 h
    obtain ⟨hvalue, hrest⟩ := Bool.and_eq_true_iff.1 hparts
    unfold resolve?
    rw [if_neg (of_decide_eq_true hopens), resolve?_of_isPlain value hvalue,
      resolveMembers?_of_isPlain rest hrest]
    rfl

theorem resolveItems?_of_isPlain :
    (items : List Json) → isPlainItems items = true → resolveItems? items = some items
  | [], _ => rfl
  | item :: rest, h => by
    obtain ⟨hitem, hrest⟩ := Bool.and_eq_true_iff.1 h
    rw [resolveItems?, resolve?_of_isPlain item hitem, resolveItems?_of_isPlain rest hrest]
    rfl

theorem resolveMembers?_of_isPlain : (members : List (String × Json)) →
    isPlainMembers members = true → resolveMembers? members = some members
  | [], _ => rfl
  | (key, value) :: rest, h => by
    obtain ⟨hvalue, hrest⟩ := Bool.and_eq_true_iff.1 h
    rw [resolveMembers?, resolve?_of_isPlain value hvalue, resolveMembers?_of_isPlain rest hrest]
    rfl

end

end Json

namespace Document

/-! ## Trees of records -/

theorem map_fst_toJsonMembers (members : List (String × Document)) :
    (toJsonMembers members).map Prod.fst = members.map Prod.fst := by
  induction members with
  | nil => rfl
  | cons member rest ih => rw [toJsonMembers, List.map_cons, ih, List.map_cons]

theorem lookup_toJsonMembers (members : List (String × Document)) (key : String) :
    (toJsonMembers members).lookup key = (members.lookup key).map toJson := by
  induction members with
  | nil => rfl
  | cons member rest ih =>
    rw [toJsonMembers, Entries.lookup_cons_ite, Entries.lookup_cons_ite, ih]
    split
    · rfl
    · rfl

theorem toJsonItems_map {α : Type} (write : α → Document) (items : List α) :
    toJsonItems (items.map write) = items.map fun item => (write item).toJson := by
  induction items with
  | nil => rfl
  | cons item rest ih => rw [List.map_cons, toJsonItems, ih, List.map_cons]

theorem toJsonMembers_map {α : Type} (write : α → Document) (entries : List (String × α)) :
    toJsonMembers (entries.map fun entry => (entry.1, write entry.2)) =
      entries.map fun entry => (entry.1, (write entry.2).toJson) := by
  induction entries with
  | nil => rfl
  | cons entry rest ih => rw [List.map_cons, toJsonMembers, ih, List.map_cons]

/-- The keys of a map stand in increasing order, and the tree of its record keeps it. -/
theorem toJson_record_map {α : Type} (write : α → Document) (map : SortedMap α) :
    (record (map.entries.map fun entry => (entry.1, write entry.2))).toJson =
      .object (map.entries.map fun entry => (entry.1, (write entry.2).toJson)) := by
  rw [toJson, toJsonMembers_map, Entries.sorted_of_increasing]
  exact List.pairwise_map.2 map.increasing

/-- Where no key comes twice, each key of a record's tree has the tree of its member. -/
theorem exists_toJson_record {members : List (String × Document)}
    (h : (members.map Prod.fst).Nodup) : ∃ tree, (record members).toJson = .object tree ∧
      ∀ key, tree.lookup key = (members.lookup key).map toJson := by
  refine ⟨Entries.sorted (toJsonMembers members), by rw [toJson], fun key => ?_⟩
  have hkeys : ((toJsonMembers members).map Prod.fst).Nodup := by
    rwa [map_fst_toJsonMembers]
  rw [Entries.lookup_sorted hkeys, lookup_toJsonMembers]

end Document

end TableFeed
