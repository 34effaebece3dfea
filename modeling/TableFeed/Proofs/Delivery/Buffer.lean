import Mathlib.Data.List.DropRight
import TableFeed.Proofs.Delivery.Batches

/-!
# Calls of a buffer

A buffer is used by pushing rows and draining it, in any order.  After any calls it holds the rows
pushed since the last drain and counts the bytes that draining it gives (`Buffer.Keeps`), and where
the drains stand makes no difference: what they give joins to the join of all rows pushed
(`Buffer.run_keeps`).
-/

namespace TableFeed.Buffer

/-! ## Calls -/

/-- A call of a buffer. -/
inductive Call where
  /-- A row is pushed. -/
  | push (row : String)
  /-- The rows are taken out. -/
  | drain
deriving DecidableEq

namespace Call

/-- The row that is pushed. -/
def row? : Call → Option String
  | push row => some row
  | drain => none

/-- All rows that calls push, in order. -/
def rows (calls : List Call) : List String :=
  calls.filterMap row?

/-- The calls since the last drain. -/
def sinceDrain (calls : List Call) : List Call :=
  calls.rtakeWhile (· ≠ drain)

/-- The rows pushed since the last drain, in order. -/
def waiting (calls : List Call) : List String :=
  rows (sinceDrain calls)

theorem rows_append (first second : List Call) :
    rows (first ++ second) = rows first ++ rows second :=
  List.filterMap_append

theorem waiting_push (calls : List Call) (row : String) :
    waiting (calls ++ [push row]) = waiting calls ++ [row] := by
  rw [waiting, sinceDrain, List.rtakeWhile_concat_pos _ _ _ (by simp), rows_append]
  rfl

theorem waiting_drain (calls : List Call) : waiting (calls ++ [drain]) = [] := by
  rw [waiting, sinceDrain, List.rtakeWhile_concat_neg _ _ _ (by simp)]
  rfl

/-- Every call since the last drain has pushed a row. -/
theorem length_waiting (calls : List Call) :
    (waiting calls).length = (sinceDrain calls).length := by
  induction calls using List.reverseRecOn with
  | nil => rfl
  | append_singleton calls call ih =>
    cases call with
    | push row =>
      rw [waiting_push, List.length_append, ih, sinceDrain, sinceDrain,
        List.rtakeWhile_concat_pos _ _ _ (by simp), List.length_append]
      rfl
    | drain =>
      rw [waiting_drain, sinceDrain, List.rtakeWhile_concat_neg _ _ _ (by simp)]
      rfl

end Call

/-- What the drains gave so far, oldest first, and the buffer after one more call. -/
def step (state : List (Option String) × Buffer) : Call → List (Option String) × Buffer
  | .push row => (state.1, state.2.push row)
  | .drain => (state.1 ++ [state.2.drain.1], state.2.drain.2)

/-- What the drains among calls give, oldest first, and the buffer after the calls. -/
def run (b : Buffer) (calls : List Call) : List (Option String) × Buffer :=
  calls.foldl step ([], b)

theorem run_concat (b : Buffer) (calls : List Call) (call : Call) :
    b.run (calls ++ [call]) = step (b.run calls) call := by
  rw [run, List.foldl_append]
  rfl

/-! ## One call -/

variable {b : Buffer} {table separator : String}

/-- A state in which calls leave an empty buffer: it accounts for the rows that wait, and what the
drains gave with these rows is all that was pushed. -/
structure Reached (table separator : String) (calls : List Call)
    (state : List (Option String) × Buffer) : Prop where
  accounts : state.2.Accounts table separator
  rows : state.2.rows = Call.waiting calls
  batched : Batched separator (Call.rows calls) (state.1.filterMap id) state.2.rows

theorem reached_nil (table separator : String) :
    Reached table separator [] ((empty table separator).run []) :=
  ⟨accounts_empty table separator, rfl, .nil⟩

variable {calls : List Call} {state : List (Option String) × Buffer}

theorem Reached.push (h : Reached table separator calls state) (row : String) :
    Reached table separator (calls ++ [.push row]) (step state (.push row)) where
  accounts := h.accounts.push row
  rows := by
    rw [Call.waiting_push, ← h.rows]
    rfl
  batched := by
    rw [Call.rows_append]
    exact h.batched.push row

theorem Reached.drain (h : Reached table separator calls state) :
    Reached table separator (calls ++ [.drain]) (step state .drain) := by
  have hdrain := drain_eq h.accounts
  have hgiven : Call.rows (calls ++ [.drain]) = Call.rows calls := by
    rw [Call.rows_append]
    exact List.append_nil _
  refine ⟨?_, ?_, ?_⟩
  · rw [step, hdrain]
    exact h.accounts.emptied
  · rw [step, hdrain, Call.waiting_drain]
    rfl
  · rw [step, hdrain, hgiven, List.filterMap_append]
    -- Draining an empty buffer writes nothing; otherwise the rows that wait are one batch.
    split
    · next hrows =>
      have hbatched := h.batched
      rw [hrows] at hbatched
      have hnone : [none].filterMap id = ([] : List String) := rfl
      rw [hnone, List.append_nil]
      exact hbatched
    · next hrows => exact h.batched.flush hrows

/-! ## Any calls -/

theorem reached (table separator : String) (calls : List Call) :
    Reached table separator calls ((empty table separator).run calls) := by
  induction calls using List.reverseRecOn with
  | nil => exact reached_nil table separator
  | append_singleton calls call ih =>
    rw [run_concat]
    cases call with
    | push row => exact ih.push row
    | drain => exact ih.drain

/-- What a buffer holds after calls, and what it gives when it is drained next. -/
structure Keeps (separator : String) (calls : List Call) (b : Buffer) : Prop where
  /-- It holds the rows pushed since the last drain. -/
  rows : b.rows = Call.waiting calls
  /-- There are as many as calls since the last drain. -/
  count : b.rows.length = (Call.sinceDrain calls).length
  /-- A drain gives their join, and nothing just when there are none. -/
  drain : b.drain.1 =
    if Call.waiting calls = [] then none else some (Text.join separator (Call.waiting calls))
  /-- The size is that of what a drain gives. -/
  size : b.size = (b.drain.1.getD "").utf8ByteSize

theorem Reached.keeps (h : Reached table separator calls state) :
    Keeps separator calls state.2 where
  rows := h.rows
  count := by rw [h.rows, Call.length_waiting]
  drain := by rw [drain_eq h.accounts, h.rows]
  size := by
    rw [h.accounts.size, h.accounts.separator, drain_eq h.accounts]
    split
    · next hrows =>
      rw [hrows]
      rfl
    · rfl

/-- After any calls a buffer accounts for the rows pushed since the last drain, and wherever the
drains stand, what they give with a last one joins to the join of all rows. -/
theorem run_keeps (table separator : String) (calls : List Call) :
    Keeps separator calls ((empty table separator).run calls).2 ∧
      ((empty table separator).run (calls ++ [.drain])).1 =
        ((empty table separator).run calls).1 ++ [((empty table separator).run calls).2.drain.1] ∧
      Text.join separator (((empty table separator).run (calls ++ [.drain])).1.filterMap id) =
        Text.join separator (Call.rows calls) := by
  refine ⟨(reached table separator calls).keeps, by rw [run_concat, step], ?_⟩
  have hdrained := reached table separator (calls ++ [.drain])
  have hbatched := hdrained.batched
  rw [hdrained.rows, Call.waiting_drain, Call.rows_append] at hbatched
  rw [hbatched.join_written]
  exact congrArg (Text.join separator) (List.append_nil _)

end TableFeed.Buffer
