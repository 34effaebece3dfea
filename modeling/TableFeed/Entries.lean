/-!
# Keyed entries

A list of pairs `(key, value)` read by key.  Two ways of writing one are used.
`put` keeps the order in which keys first came: a key that is already there
keeps its place and takes the new value.  `insert` keeps string keys in
increasing order, and again the last value written wins.

Reading is `List.lookup`, the first entry with the key.  `lookup_put` and
`lookup_insert` say that both writers change the reading at their own key and
nowhere else.  Neither law asks the list to be well formed, since both writers
are one pass that replaces on meeting the key.
-/

namespace TableFeed.Entries

variable {κ α : Type}

/-! ## In order of first appearance -/

/-- Sets `key` to `value`, in place when the key is there and at the end when it is not. -/
def put [DecidableEq κ] (key : κ) (value : α) : List (κ × α) → List (κ × α)
  | [] => [(key, value)]
  | (k, v) :: rest => if k = key then (k, value) :: rest else (k, v) :: put key value rest

/-- The entries with every pair written by `put`, from left to right. -/
def ofPairs [DecidableEq κ] (pairs : List (κ × α)) : List (κ × α) :=
  pairs.foldl (fun entries pair => put pair.1 pair.2 entries) []

/-- The keys, in the order of the list. -/
def keys (entries : List (κ × α)) : List κ :=
  entries.map Prod.fst

/-- Reading looks at the first entry and else at the rest. -/
theorem lookup_cons_ite [DecidableEq κ] [BEq κ] [LawfulBEq κ] (key other : κ) (value : α)
    (rest : List (κ × α)) :
    ((key, value) :: rest).lookup other =
      if other = key then some value else rest.lookup other := by
  by_cases h : other = key
  · subst h
    simp
  · have hb : (other == key) = false := by simp [h]
    simp [List.lookup_cons, hb, h]

theorem lookup_put [DecidableEq κ] [BEq κ] [LawfulBEq κ] (key other : κ) (value : α)
    (entries : List (κ × α)) :
    (put key value entries).lookup other =
      if other = key then some value else entries.lookup other := by
  induction entries with
  | nil => simp [put, lookup_cons_ite]
  | cons entry rest ih =>
    obtain ⟨k, v⟩ := entry
    by_cases hk : k = key
    · subst hk
      simp only [put, ↓reduceIte, lookup_cons_ite]
      split <;> rfl
    · simp only [put, hk, ↓reduceIte, lookup_cons_ite, ih]
      by_cases ho : other = k
      · subst ho
        simp [hk]
      · simp [ho]

/-! ## In increasing order of the keys -/

/-- Sets `key` to `value` at the place where increasing order puts it. -/
def insert (key : String) (value : α) : List (String × α) → List (String × α)
  | [] => [(key, value)]
  | (k, v) :: rest =>
    if key < k then (key, value) :: (k, v) :: rest
    else if key = k then (key, value) :: rest
    else (k, v) :: insert key value rest

/-- The entries sorted by key; of two with one key the later is kept. -/
def sorted (entries : List (String × α)) : List (String × α) :=
  entries.foldl (fun done entry => insert entry.1 entry.2 done) []

theorem lookup_insert (key other : String) (value : α) (entries : List (String × α)) :
    (insert key value entries).lookup other =
      if other = key then some value else entries.lookup other := by
  induction entries with
  | nil => simp [insert, lookup_cons_ite]
  | cons entry rest ih =>
    obtain ⟨k, v⟩ := entry
    by_cases hlt : key < k
    · simp [insert, hlt, lookup_cons_ite]
    · by_cases hk : key = k
      · subst hk
        simp only [insert, hlt, ↓reduceIte, lookup_cons_ite]
        split <;> rfl
      · simp only [insert, hlt, hk, ↓reduceIte, lookup_cons_ite, ih]
        by_cases ho : other = k
        · have hne : ¬ k = key := fun h => hk h.symm
          subst ho
          simp [hne]
        · simp [ho]

end TableFeed.Entries
