import Mathlib.Data.List.Induction
import TableFeed.SortedMap

/-!
# Reading and counting entries

What a list of entries gives when it is read: an entry of it, the only one where keys do not
repeat, and the last one of the pairs that were put.  The keys of what was put are the keys
that were given without those that come again (`Entries.map_fst_put_of_eraseDups`).

Sorting changes no reading (`Entries.lookup_sorted`), and nothing at all where the entries stand in
order (`Entries.sorted_of_increasing`).

Counting one more in a map of counts adds one to their sum (`SortedMap.total_increment`).
-/

namespace TableFeed

/-! ## Lists without repetitions -/

section

variable {α : Type} [BEq α] [LawfulBEq α]

theorem eraseDups_concat [DecidableEq α] (keys : List α) (key : α) :
    (keys ++ [key]).eraseDups = if key ∈ keys then keys.eraseDups else keys.eraseDups ++ [key] := by
  have hsingle : [key].eraseDups = [key] := rfl
  rw [List.eraseDups_append, List.removeAll]
  by_cases hmem : key ∈ keys
  · simp [hmem]
  · simp [hmem, hsingle]

theorem nodup_eraseDups (keys : List α) : keys.eraseDups.Nodup := by
  classical
  induction keys using List.reverseRecOn with
  | nil => exact .nil
  | append_singleton keys key ih =>
    rw [eraseDups_concat]
    split
    · exact ih
    · next hnew =>
      refine List.nodup_append.2 ⟨ih, List.pairwise_singleton _ key, ?_⟩
      rintro other hother _ hkey rfl
      cases List.mem_singleton.1 hkey
      exact hnew (List.mem_eraseDups.1 hother)

end

/-! ## Entries -/

namespace Entries

section

variable {κ α : Type} [BEq κ] [LawfulBEq κ]

theorem mem_of_lookup {entries : List (κ × α)} {key : κ} {value : α}
    (h : entries.lookup key = some value) : (key, value) ∈ entries := by
  obtain ⟨before, after, rfl, -⟩ := List.lookup_eq_some_iff.1 h
  exact List.mem_append_right _ List.mem_cons_self

theorem lookup_eq_none_of_not_mem {entries : List (κ × α)} {key : κ}
    (h : key ∉ entries.map Prod.fst) : entries.lookup key = none := by
  rw [List.lookup_eq_none_iff]
  intro pair hpair
  have hne : key ≠ pair.1 := fun heq => h (heq ▸ List.mem_map_of_mem hpair)
  simpa using hne

theorem isSome_lookup_of_mem {entries : List (κ × α)} {key : κ}
    (h : key ∈ entries.map Prod.fst) : (entries.lookup key).isSome = true := by
  obtain ⟨entry, hentry, rfl⟩ := List.mem_map.1 h
  exact List.lookup_isSome_iff.2 ⟨entry, hentry, BEq.rfl⟩

end

variable {κ α : Type} [DecidableEq κ]

theorem map_fst_put (key : κ) (value : α) (entries : List (κ × α)) :
    (put key value entries).map Prod.fst =
      if key ∈ entries.map Prod.fst then entries.map Prod.fst
      else entries.map Prod.fst ++ [key] := by
  induction entries with
  | nil => rfl
  | cons entry rest ih =>
    rw [put]
    by_cases hkey : entry.1 = key
    · rw [if_pos hkey, List.map_cons, if_pos (hkey ▸ List.mem_cons_self), List.map_cons]
    · have hne : key ≠ entry.1 := fun heq => hkey heq.symm
      simp only [if_neg hkey, List.map_cons, ih, List.mem_cons, hne, false_or]
      split
      · rfl
      · rfl

/-- A key that is not there yet is put at the end. -/
theorem put_of_not_mem {key : κ} {value : α} {entries : List (κ × α)}
    (h : key ∉ entries.map Prod.fst) : put key value entries = entries ++ [(key, value)] := by
  induction entries with
  | nil => rfl
  | cons entry rest ih =>
    obtain ⟨hentry, hrest⟩ := not_or.1 (List.mem_cons.not.1 h)
    rw [put, if_neg (Ne.symm hentry), ih hrest, List.cons_append]

variable [BEq κ] [LawfulBEq κ]

/-- A key that is put comes after the keys before it, unless it is one of them. -/
theorem map_fst_put_of_eraseDups {keys : List κ} {entries : List (κ × α)}
    (h : entries.map Prod.fst = keys.eraseDups) (key : κ) (value : α) :
    (put key value entries).map Prod.fst = (keys ++ [key]).eraseDups := by
  rw [map_fst_put, eraseDups_concat, h]
  simp only [List.mem_eraseDups]

theorem lookup_of_mem {entries : List (κ × α)} (h : (entries.map Prod.fst).Nodup)
    {entry : κ × α} (hentry : entry ∈ entries) : entries.lookup entry.1 = some entry.2 := by
  induction entries with
  | nil => cases hentry
  | cons first rest ih =>
    obtain ⟨hfirst, hrest⟩ := List.nodup_cons.1 h
    rw [lookup_cons_ite]
    rcases List.mem_cons.1 hentry with rfl | hmem
    · exact if_pos rfl
    · have hne : entry.1 ≠ first.1 := by
        intro heq
        exact hfirst (heq ▸ List.mem_map_of_mem hmem)
      rw [if_neg hne, ih hrest hmem]

private theorem lookup_foldl_put_eq (pairs entries : List (κ × α)) (key : κ) :
    (pairs.foldl (fun entries pair => put pair.1 pair.2 entries) entries).lookup key =
      (pairs.reverse.lookup key).or (entries.lookup key) := by
  induction pairs generalizing entries with
  | nil => rfl
  | cons pair rest ih =>
    rw [List.foldl_cons, ih, List.reverse_cons, List.lookup_append, lookup_put, Option.or_assoc]
    congr 1
    rw [lookup_cons_ite]
    split
    · rfl
    · rfl

/-- Of several pairs with one key the last is read. -/
theorem lookup_ofPairs (pairs : List (κ × α)) (key : κ) :
    (ofPairs pairs).lookup key = pairs.reverse.lookup key := by
  rw [ofPairs, lookup_foldl_put_eq, List.lookup_nil, Option.or_none]

/-- What is read from the entries of pairs is one of the pairs. -/
theorem mem_of_lookup_ofPairs {pairs : List (κ × α)} {key : κ} {value : α}
    (h : (ofPairs pairs).lookup key = some value) : (key, value) ∈ pairs := by
  rw [lookup_ofPairs] at h
  exact List.mem_reverse.1 (mem_of_lookup h)

/-- Every key of the pairs can be read. -/
theorem isSome_lookup_ofPairs {pairs : List (κ × α)} {key : κ} (h : key ∈ pairs.map Prod.fst) :
    ((ofPairs pairs).lookup key).isSome = true := by
  rw [lookup_ofPairs]
  refine isSome_lookup_of_mem ?_
  rw [List.map_reverse]
  exact List.mem_reverse.2 h

/-! ## Sorting -/

theorem lookup_foldl_insert {entries : List (String × α)} (h : (entries.map Prod.fst).Nodup)
    (done : List (String × α)) (key : String) :
    (entries.foldl (fun done entry => insert entry.1 entry.2 done) done).lookup key =
      (entries.lookup key).or (done.lookup key) := by
  induction entries generalizing done with
  | nil => rfl
  | cons entry rest ih =>
    obtain ⟨hentry, hrest⟩ := List.nodup_cons.1 h
    rw [List.foldl_cons, ih hrest, lookup_insert, lookup_cons_ite]
    by_cases hkey : key = entry.1
    · rw [if_pos hkey, if_pos hkey, hkey, lookup_eq_none_of_not_mem hentry]
      rfl
    · rw [if_neg hkey, if_neg hkey]

/-- Sorting entries does not change what is read where no key comes twice. -/
theorem lookup_sorted {entries : List (String × α)} (h : (entries.map Prod.fst).Nodup)
    (key : String) : (sorted entries).lookup key = entries.lookup key := by
  rw [sorted, lookup_foldl_insert h, List.lookup_nil, Option.or_none]

theorem insert_of_forall_lt {entries : List (String × α)} {key : String} {value : α}
    (h : ∀ entry ∈ entries, entry.1 < key) :
    insert key value entries = entries ++ [(key, value)] := by
  induction entries with
  | nil => rfl
  | cons entry rest ih =>
    obtain ⟨hentry, hrest⟩ := List.forall_mem_cons.1 h
    have hnlt : ¬ key < entry.1 := fun hlt => String.lt_irrefl _ (String.lt_trans hentry hlt)
    have hne : key ≠ entry.1 := fun heq => String.lt_irrefl _ (heq ▸ hentry)
    rw [insert, if_neg hnlt, if_neg hne, ih hrest, List.cons_append]

/-- Entries in increasing order are sorted already. -/
theorem sorted_of_increasing {entries : List (String × α)}
    (h : entries.Pairwise fun left right => left.1 < right.1) : sorted entries = entries := by
  induction entries using List.reverseRecOn with
  | nil => rfl
  | append_singleton entries entry ih =>
    obtain ⟨hentries, -, hlast⟩ := List.pairwise_append.1 h
    have hlt : ∀ before ∈ entries, before.1 < entry.1 := fun before hbefore =>
      hlast before hbefore entry (List.mem_singleton_self entry)
    have hsorted := ih hentries
    rw [sorted] at hsorted
    rw [sorted, List.foldl_append, hsorted]
    exact insert_of_forall_lt hlt

theorem sorted_concat (entries : List (String × α)) (entry : String × α) :
    sorted (entries ++ [entry]) = insert entry.1 entry.2 (sorted entries) := by
  rw [sorted, List.foldl_append]
  rfl

theorem increasing_sorted (entries : List (String × α)) :
    (sorted entries).Pairwise fun left right => left.1 < right.1 := by
  induction entries using List.reverseRecOn with
  | nil => exact .nil
  | append_singleton entries entry ih =>
    rw [sorted_concat]
    exact SortedMap.insert_increasing entry.1 entry.2 ih

/-- Entries that are sorted into ones with the same keys are sorted already. -/
theorem eq_of_sorted_eq {entries others : List (String × α)} (h : sorted entries = others)
    (hkeys : entries.map Prod.fst = others.map Prod.fst) : entries = others := by
  have hothers : (others.map Prod.fst).Pairwise (· < ·) :=
    List.pairwise_map.2 (h ▸ increasing_sorted entries)
  rw [← hkeys] at hothers
  rw [← h, sorted_of_increasing (List.pairwise_map.1 hothers)]

theorem isSome_lookup_sorted {entries : List (String × α)} {key : String}
    (h : key ∈ entries.map Prod.fst) : ((sorted entries).lookup key).isSome = true := by
  induction entries using List.reverseRecOn with
  | nil => cases h
  | append_singleton entries entry ih =>
    rw [sorted_concat, lookup_insert]
    split
    · rfl
    · next hne =>
      refine ih ?_
      simpa [hne] using h

/-- Where entries are sorted into one, all of them have its key. -/
theorem eq_of_sorted_eq_singleton {entries : List (String × α)} {entry : String × α}
    {key : String} (h : sorted entries = [entry]) (hkey : key ∈ entries.map Prod.fst) :
    key = entry.1 := by
  have hfound := isSome_lookup_sorted hkey
  rw [h, List.lookup_isSome_iff] at hfound
  obtain ⟨found, hmem, heq⟩ := hfound
  cases List.mem_singleton.1 hmem
  exact eq_of_beq heq

/-! ## Counts -/

/-- The sum of counts. -/
def total : List (String × Nat) → Nat
  | [] => 0
  | entry :: rest => entry.2 + total rest

theorem foldl_add (entries : List (String × Nat)) (start : Nat) :
    (entries.map Prod.snd).foldl (· + ·) start = start + total entries := by
  induction entries generalizing start with
  | nil => rfl
  | cons entry rest ih =>
    rw [List.map_cons, List.foldl_cons, ih, total]
    omega

/-- A count takes the place of the one under its key in the sum of counts. -/
theorem total_insert (key : String) (count : Nat) {entries : List (String × Nat)}
    (h : entries.Pairwise fun left right => left.1 < right.1) :
    total (insert key count entries) + (entries.lookup key).getD 0 = total entries + count := by
  induction entries with
  | nil => simp [insert, total]
  | cons entry rest ih =>
    obtain ⟨hfirst, hrest⟩ := List.pairwise_cons.1 h
    rw [insert, lookup_cons_ite]
    by_cases hlt : key < entry.1
    · -- All keys are above the new one, so it has no count yet.
      have hne : key ≠ entry.1 := String.ne_of_lt hlt
      have hnone : rest.lookup key = none := by
        refine lookup_eq_none_of_not_mem fun hmem => ?_
        obtain ⟨other, hother, rfl⟩ := List.mem_map.1 hmem
        exact String.lt_irrefl _ (String.lt_trans hlt (hfirst other hother))
      rw [if_pos hlt, if_neg hne, hnone]
      simp only [total, Option.getD_none]
      omega
    · rw [if_neg hlt]
      by_cases heq : key = entry.1
      · rw [if_pos heq, if_pos heq]
        simp only [total, Option.getD_some]
        omega
      · rw [if_neg heq, if_neg heq]
        have htotal := ih hrest
        simp only [total]
        omega

end Entries

/-! ## Maps sorted by key -/

namespace SortedMap

variable {α : Type}

theorem nodup_keys (map : SortedMap α) : map.keys.Nodup := by
  have hincreasing : map.keys.Pairwise (· < ·) := List.pairwise_map.2 map.increasing
  refine hincreasing.imp ?_
  rintro left _ hlt rfl
  exact String.lt_irrefl left hlt

theorem get?_of_mem {map : SortedMap α} {entry : String × α} (h : entry ∈ map.entries) :
    map.get? entry.1 = some entry.2 :=
  Entries.lookup_of_mem map.nodup_keys h

theorem entries_foldl_insert (entries : List (String × α)) (map : SortedMap α) :
    (entries.foldl (fun map entry => map.insert entry.1 entry.2) map).entries =
      entries.foldl (fun done entry => Entries.insert entry.1 entry.2 done) map.entries := by
  induction entries generalizing map with
  | nil => rfl
  | cons entry rest ih => exact ih (map.insert entry.1 entry.2)

/-- A map is made again from its bindings. -/
theorem ofList_entries (map : SortedMap α) : ofList map.entries = map :=
  ext ((entries_foldl_insert map.entries empty).trans
    (Entries.sorted_of_increasing map.increasing))

theorem get?_insert_eq_none_iff {map : SortedMap α} {key other : String} {value : α} :
    (map.insert key value).get? other = none ↔ other ≠ key ∧ map.get? other = none := by
  rw [get?_insert]
  split
  · next heq => exact iff_of_false nofun fun h => h.1 heq
  · next hne => exact (and_iff_right hne).symm

theorem get?_eq_some_iff {map : SortedMap α} {key : String} {value : α} :
    map.get? key = some value ↔ (key, value) ∈ map.entries :=
  ⟨Entries.mem_of_lookup, get?_of_mem⟩

/-- The map of bindings with different keys has just these. -/
theorem get?_ofList_eq_some_iff {entries : List (String × α)} (h : (entries.map Prod.fst).Nodup)
    {key : String} {value : α} :
    (ofList entries).get? key = some value ↔ (key, value) ∈ entries := by
  have hsorted : (ofList entries).entries = Entries.sorted entries :=
    entries_foldl_insert entries empty
  rw [get?, hsorted, Entries.lookup_sorted h]
  exact ⟨Entries.mem_of_lookup, Entries.lookup_of_mem h⟩

/-- Maps with the same bindings are the same. -/
theorem ext_get? {left right : SortedMap α} (h : ∀ key, left.get? key = right.get? key) :
    left = right := by
  have hnodup (map : SortedMap α) : map.entries.Nodup := by
    refine map.increasing.imp ?_
    rintro first _ hlt rfl
    exact String.lt_irrefl _ hlt
  have hperm : left.entries.Perm right.entries := by
    rw [List.perm_ext_iff_of_nodup (hnodup left) (hnodup right)]
    rintro ⟨key, value⟩
    rw [← get?_eq_some_iff, ← get?_eq_some_iff, h]
  refine ext (hperm.eq_of_pairwise ?_ left.increasing right.increasing)
  intro first second _ _ hlt hgt
  exact absurd (String.lt_trans hlt hgt) (String.lt_irrefl _)

/-- The order of bindings with different keys does not matter. -/
theorem ofList_of_perm {entries : List (String × α)} {map : SortedMap α}
    (h : entries.Perm map.entries) : ofList entries = map := by
  have hkeys : (entries.map Prod.fst).Nodup := (h.map Prod.fst).nodup_iff.2 map.nodup_keys
  refine ext_get? fun key => Option.ext fun value => ?_
  rw [get?_ofList_eq_some_iff hkeys, get?_eq_some_iff, h.mem_iff]

/-- Counting one more adds one to the sum of counts. -/
theorem total_increment (map : SortedMap Nat) (key : String) :
    Entries.total (map.increment key).entries = Entries.total map.entries + 1 := by
  have htotal := Entries.total_insert key ((map.get? key).getD 0 + 1) map.increasing
  change Entries.total (Entries.insert key ((map.get? key).getD 0 + 1) map.entries) =
    Entries.total map.entries + 1
  rw [get?] at htotal ⊢
  omega

end SortedMap

end TableFeed
