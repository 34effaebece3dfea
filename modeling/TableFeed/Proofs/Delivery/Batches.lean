import TableFeed.Delivery.Buffer

/-!
# Batches of payloads

The payloads of one table reach the sink in batches, each joined to one payload, while the
last ones still wait.  `Batched` is what the pushes and flushes of a buffer make of the
payloads given to it.  Whatever the batches are, joining what was written gives what joining
the given payloads would have given (`Batched.join_written`), empty payloads included.

A buffer of a table counts the bytes that its batch will have (`Buffer.Accounts`).
-/

namespace TableFeed

/-! ## One table -/

/-- What was written of the payloads given, and what still waits. -/
inductive Batched (separator : String) : List String → List String → List String → Prop where
  /-- At the start there is nothing. -/
  | nil : Batched separator [] [] []
  /-- A payload given waits after the others. -/
  | push {given written waiting : List String} (payload : String) :
      Batched separator given written waiting →
      Batched separator (given ++ [payload]) written (waiting ++ [payload])
  /-- All that waits is written as one payload. -/
  | flush {given written waiting : List String} :
      Batched separator given written waiting → waiting ≠ [] →
      Batched separator given (written ++ [Text.join separator waiting]) []

namespace Batched

variable {separator : String} {given written waiting : List String}

theorem given_eq_nil_iff (h : Batched separator given written waiting) :
    given = [] ↔ written ++ waiting = [] := by
  induction h with
  | nil => simp
  | push payload _ _ => simp
  | flush _ hwaiting ih => simp [ih, hwaiting]

/-- The payloads given join to the same text as those written with those that wait. -/
theorem join_given (h : Batched separator given written waiting) :
    Text.join separator (written ++ waiting) = Text.join separator given := by
  induction h with
  | nil => rfl
  | @push given written waiting payload hbatched ih =>
    rw [← List.append_assoc]
    -- The join of an append needs both parts, so the first payload is a case of its own.
    by_cases hgiven : given = []
    · rw [hgiven, hbatched.given_eq_nil_iff.1 hgiven]
    · have hbefore := mt hbatched.given_eq_nil_iff.2 hgiven
      rw [Text.join_append hbefore (List.cons_ne_nil _ _),
        Text.join_append hgiven (List.cons_ne_nil _ _), ih]
  | @flush given written waiting _ hwaiting ih =>
    rw [List.append_nil, ← ih]
    by_cases hwritten : written = []
    · rw [hwritten]
      rfl
    · rw [Text.join_append hwritten (List.cons_ne_nil _ _), Text.join_append hwritten hwaiting]
      rfl

/-- Once nothing waits, what was written joins to what was given. -/
theorem join_written (h : Batched separator given written []) :
    Text.join separator written = Text.join separator given := by
  rw [← h.join_given, List.append_nil]

end Batched

/-! ## Buffers -/

/-- The payloads for a table, in order. -/
def payloadsFor (table : String) (payloads : List (String × String)) : List String :=
  (payloads.filter fun payload => payload.1 = table).map Prod.snd

theorem payloadsFor_append (table : String) (first second : List (String × String)) :
    payloadsFor table (first ++ second) = payloadsFor table first ++ payloadsFor table second := by
  rw [payloadsFor, List.filter_append, List.map_append]
  rfl

theorem payloadsFor_singleton (table other text : String) :
    payloadsFor table [(other, text)] = if other = table then [text] else [] := by
  by_cases h : other = table
  · simp [payloadsFor, h]
  · simp [payloadsFor, h]

namespace Buffer

/-- A buffer of a table whose size is that of the payload it would give. -/
structure Accounts (table separator : String) (b : Buffer) : Prop where
  table : b.table = table
  separator : b.separator = separator
  size : b.size = (Text.join b.separator b.rows).utf8ByteSize

/-- The buffer after its payloads were taken out. -/
def emptied (b : Buffer) : Buffer :=
  { b with rows := [], size := 0 }

/-- What taking the payloads out of a buffer gives to write. -/
def batch (b : Buffer) : List (String × String) :=
  if b.rows = [] then [] else [(b.table, Text.join b.separator b.rows)]

theorem accounts_empty (table separator : String) :
    (empty table separator).Accounts table separator :=
  ⟨rfl, rfl, rfl⟩

variable {b : Buffer} {table separator : String}

theorem Accounts.emptied (h : b.Accounts table separator) :
    b.emptied.Accounts table separator :=
  ⟨h.table, h.separator, rfl⟩

theorem Accounts.push (h : b.Accounts table separator) (row : String) :
    (b.push row).Accounts table separator := by
  refine ⟨h.table, h.separator, ?_⟩
  change b.size + (if b.rows.isEmpty then 0 else b.separator.utf8ByteSize) + row.utf8ByteSize =
    (Text.join b.separator (b.rows ++ [row])).utf8ByteSize
  by_cases hrows : b.rows = []
  · rw [h.size, hrows]
    simp [Text.join]
  · have hempty : ¬ b.rows.isEmpty = true := by simpa using hrows
    rw [if_neg hempty, Text.join_append hrows (List.cons_ne_nil row []),
      String.utf8ByteSize_append, String.utf8ByteSize_append, ← h.size]
    rfl

theorem Accounts.emptied_eq (h : b.Accounts table separator) (hrows : b.rows = []) :
    b.emptied = b := by
  have hsize := h.size
  obtain ⟨_, _, rows, size⟩ := b
  cases hrows
  cases hsize
  rfl

theorem drain_eq (h : b.Accounts table separator) :
    b.drain = (if b.rows = [] then none else some (Text.join separator b.rows), b.emptied) := by
  by_cases hrows : b.rows = []
  · rw [h.emptied_eq hrows]
    simp [drain, isEmpty, hrows]
  · simp [drain, isEmpty, hrows, emptied, h.separator]

theorem Accounts.size_of_mem_batch (h : b.Accounts table separator) {write : String × String}
    (hwrite : write ∈ b.batch) : write.2.utf8ByteSize = b.size := by
  rw [batch] at hwrite
  split at hwrite
  · cases hwrite
  · cases List.mem_singleton.1 hwrite
    exact h.size.symm

theorem payloadsFor_batch_of_ne (h : table ≠ b.table) : payloadsFor table b.batch = [] := by
  rw [batch]
  split
  · rfl
  · rw [payloadsFor_singleton, if_neg (Ne.symm h)]

/-- Taking out what waits in a buffer writes it as one batch, or nothing where nothing waits. -/
theorem batched_batch {given written : List String}
    (h : Batched b.separator given written b.rows) :
    Batched b.separator given (written ++ payloadsFor b.table b.batch) [] := by
  rw [batch]
  by_cases hrows : b.rows = []
  · rw [if_pos hrows]
    rw [hrows] at h
    have hnone : payloadsFor b.table [] = [] := rfl
    rwa [hnone, List.append_nil]
  · rw [if_neg hrows, payloadsFor_singleton, if_pos rfl]
    exact h.flush hrows

end Buffer

end TableFeed
