import TableFeed.Entries
import TableFeed.Table.Column

/-!
# The table cache

What is known of each destination table: nothing, that it exists, or its columns.
The cache may be out of date; it never asks the catalog by itself.
-/

namespace TableFeed

/-- What is known of a table that exists. -/
inductive CachedTable where
  /-- Its columns have not been asked for. -/
  | unloaded
  /-- Its columns as last reported. -/
  | loaded (snapshot : TableSnapshot)
deriving DecidableEq

/-- What is known of the destination's tables, by name. -/
structure TableCache where
  /-- The tables known to exist. -/
  slots : List (String × CachedTable)

namespace TableCache

/-- Nothing known. -/
def empty : TableCache :=
  ⟨[]⟩

/-- What is known of a table; none when it is not known to exist. -/
def slot? (cache : TableCache) (table : String) : Option CachedTable :=
  cache.slots.lookup table

/-- Sets what is known of a table. -/
def set (cache : TableCache) (table : String) (cached : CachedTable) : TableCache :=
  ⟨Entries.put table cached cache.slots⟩

/-- Forgets a table. -/
def forget (cache : TableCache) (table : String) : TableCache :=
  ⟨cache.slots.filter fun slot => slot.1 != table⟩

/-- Whether a table is known to exist. -/
def isKnown (cache : TableCache) (table : String) : Bool :=
  (cache.slot? table).isSome

/-- The columns of a table, if they are known. -/
def snapshot? (cache : TableCache) (table : String) : Option TableSnapshot :=
  match cache.slot? table with
  | some (.loaded snapshot) => some snapshot
  | _ => none

theorem slot?_set (cache : TableCache) (table other : String) (cached : CachedTable) :
    (cache.set table cached).slot? other =
      if other = table then some cached else cache.slot? other :=
  Entries.lookup_put table other cached cache.slots

end TableCache

end TableFeed
