import TableFeed.Entries

/-!
# Maps sorted by key

A `SortedMap` holds values under string keys in strictly increasing order, so a
map has one form and two maps with the same bindings are equal.  Iteration, and
every text written from a map, follows that order.
-/

namespace TableFeed

/-- Values under string keys, in strictly increasing order of the keys. -/
structure SortedMap (α : Type) where
  /-- The bindings. -/
  entries : List (String × α)
  /-- The keys increase strictly. -/
  increasing : entries.Pairwise fun left right => left.1 < right.1

namespace SortedMap

variable {α : Type}

/-- The map without bindings. -/
def empty : SortedMap α :=
  ⟨[], .nil⟩

instance : Inhabited (SortedMap α) := ⟨empty⟩

theorem mem_insert {key : String} {value : α} {entries : List (String × α)} {entry : String × α}
    (h : entry ∈ Entries.insert key value entries) : entry = (key, value) ∨ entry ∈ entries := by
  induction entries with
  | nil => simpa [Entries.insert] using h
  | cons head rest ih =>
    rw [Entries.insert] at h
    split at h
    · simpa using h
    · split at h
      · rcases List.mem_cons.1 h with h | h
        · exact .inl h
        · exact .inr (List.mem_cons_of_mem _ h)
      · rcases List.mem_cons.1 h with h | h
        · exact .inr (h ▸ List.mem_cons_self)
        · rcases ih h with h | h
          · exact .inl h
          · exact .inr (List.mem_cons_of_mem _ h)

theorem insert_increasing (key : String) (value : α) {entries : List (String × α)}
    (h : entries.Pairwise fun left right => left.1 < right.1) :
    (Entries.insert key value entries).Pairwise fun left right => left.1 < right.1 := by
  induction entries with
  | nil => simp [Entries.insert]
  | cons head rest ih =>
    obtain ⟨headLt, restIncreasing⟩ := List.pairwise_cons.1 h
    rw [Entries.insert]
    split
    · next hlt =>
      refine List.pairwise_cons.2 ⟨fun entry hmem => ?_, h⟩
      rcases List.mem_cons.1 hmem with hmem | hmem
      · exact hmem ▸ hlt
      · exact String.lt_trans hlt (headLt entry hmem)
    · next hnlt =>
      split
      · next heq =>
        exact List.pairwise_cons.2 ⟨fun entry hmem => heq ▸ headLt entry hmem, restIncreasing⟩
      · next hne =>
        have hgt : head.1 < key := by
          have hle : head.1 ≤ key := String.not_lt.1 hnlt
          exact Decidable.byContradiction fun hnot =>
            hne (String.le_antisymm (String.not_lt.1 hnot) hle)
        refine List.pairwise_cons.2 ⟨fun entry hmem => ?_, ih restIncreasing⟩
        rcases mem_insert hmem with hmem | hmem
        · exact hmem ▸ hgt
        · exact headLt entry hmem

/-- The map with `key` bound to `value`. -/
def insert (map : SortedMap α) (key : String) (value : α) : SortedMap α :=
  ⟨Entries.insert key value map.entries, insert_increasing key value map.increasing⟩

/-- The value bound to a key. -/
def get? (map : SortedMap α) (key : String) : Option α :=
  map.entries.lookup key

/-- The keys in increasing order. -/
def keys (map : SortedMap α) : List String :=
  map.entries.map Prod.fst

/-- The values in the order of their keys. -/
def values (map : SortedMap α) : List α :=
  map.entries.map Prod.snd

/-- The map of a list of bindings; of two with one key the later is kept. -/
def ofList (entries : List (String × α)) : SortedMap α :=
  entries.foldl (fun map entry => map.insert entry.1 entry.2) empty

/-- Whether there is no binding. -/
def isEmpty (map : SortedMap α) : Bool :=
  map.entries.isEmpty

/-- Adds one to the count under a key, which starts at zero. -/
def increment (map : SortedMap Nat) (key : String) : SortedMap Nat :=
  map.insert key ((map.get? key).getD 0 + 1)

theorem get?_insert (map : SortedMap α) (key other : String) (value : α) :
    (map.insert key value).get? other = if other = key then some value else map.get? other :=
  Entries.lookup_insert key other value map.entries

theorem get?_empty (key : String) : (empty : SortedMap α).get? key = none := rfl

theorem ext {left right : SortedMap α} (h : left.entries = right.entries) : left = right := by
  cases left
  cases right
  simpa using h

instance [BEq α] : BEq (SortedMap α) where
  beq left right := left.entries == right.entries

instance [DecidableEq α] : DecidableEq (SortedMap α) := fun left right =>
  if h : left.entries = right.entries then isTrue (ext h)
  else isFalse fun heq => h (heq ▸ rfl)

end SortedMap

end TableFeed
