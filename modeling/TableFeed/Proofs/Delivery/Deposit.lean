import TableFeed.Proofs.Delivery.Batches
import TableFeed.Proofs.Delivery.Intake

/-!
# Where a payload is put

A payload is put into the buffer of its table behind those that wait there.  It stays in the
buffer, or all that the buffer holds is written to the sink at once (`Run.Deposited`).  So it is
with every sink, also with one that does not take what is written to it.

That a buffer is written under the name of its table rests on an invariant of runs: every buffer
is that of the table it is found under (`Run.Accounted`).
-/

namespace TableFeed.Run

variable {config : Config} {connector : Connector} {flushBytes : Nat} {run : Run}
  {buffer : Buffer} {table payload separator : String}

/-! ## The buffer of a table -/

/-- The payloads that wait for a table. -/
def waiting (run : Run) (table : String) : List String :=
  (run.buffers.get? table).elim [] Buffer.rows

/-- The buffer that the payloads for a table come to. -/
def bufferFor (config : Config) (run : Run) (table : String) : Buffer :=
  (run.buffers.get? table).getD (.empty table config.lineSeparator)

theorem rows_bufferFor (config : Config) (run : Run) (table : String) :
    (run.bufferFor config table).rows = run.waiting table := by
  rw [bufferFor, waiting]
  cases run.buffers.get? table with
  | none => rfl
  | some buffer => rfl

theorem rows_push_bufferFor (config : Config) (run : Run) (table payload : String) :
    ((run.bufferFor config table).push payload).rows = run.waiting table ++ [payload] := by
  rw [← rows_bufferFor config]
  rfl

/-- The run with a payload put into the buffer of its table. -/
def pushed (config : Config) (table payload : String) (run : Run) : Run :=
  { run with
    report.rows := run.report.rows + 1
    buffers := run.buffers.insert table ((run.bufferFor config table).push payload) }

theorem get?_pushed (config : Config) (table payload other : String) (run : Run) :
    (run.pushed config table payload).buffers.get? other =
      if other = table then some ((run.bufferFor config table).push payload)
      else run.buffers.get? other :=
  SortedMap.get?_insert _ _ _ _

theorem deliver_eq (config : Config) (flushBytes : Nat) (table payload : String) (run : Run) :
    run.deliver config flushBytes table payload =
      if flushBytes ≤ ((run.bufferFor config table).push payload).size then
        (run.pushed config table payload).flush ((run.bufferFor config table).push payload)
      else (.ok (), run.pushed config table payload) := rfl

/-! ## Writing a buffer -/

theorem flush_of_nil (h : buffer.Accounts table separator) (hrows : buffer.rows = []) (run : Run) :
    run.flush buffer = (.ok (), run) := by
  rw [flush, Buffer.drain_eq h, if_pos hrows]

/-- Whatever comes of the write, the buffer is empty afterwards. -/
theorem flush_snd (h : buffer.Accounts table separator) (hrows : buffer.rows ≠ []) (run : Run) :
    (run.flush buffer).2 = { run with
      buffers := run.buffers.insert table buffer.emptied
      sink := (run.sink.write table (Text.join separator buffer.rows)).2 } := by
  rw [flush, Buffer.drain_eq h, if_neg hrows, h.table]
  dsimp only
  rcases run.sink.write table (Text.join separator buffer.rows) with ⟨_ | _, _⟩
  · rfl
  · rfl

/-! ## Buffers under their tables -/

/-- Every buffer is that of the table it is found under, and knows its size. -/
def Accounted (config : Config) (run : Run) : Prop :=
  ∀ table buffer, run.buffers.get? table = some buffer → buffer.Accounts table config.lineSeparator

theorem accounted_start (config : Config) (d : Destination) (sink : Sink) :
    (start d sink).Accounted config :=
  nofun

namespace Accounted

theorem bufferFor (h : run.Accounted config) (table : String) :
    (run.bufferFor config table).Accounts table config.lineSeparator := by
  rw [Run.bufferFor]
  cases hbuffer : run.buffers.get? table with
  | none => exact Buffer.accounts_empty _ _
  | some buffer => exact h table buffer hbuffer

theorem insert (h : run.Accounted config) (hbuffer : buffer.Accounts table config.lineSeparator) :
    ∀ other found, (run.buffers.insert table buffer).get? other = some found →
      found.Accounts other config.lineSeparator := by
  intro other found hfound
  rw [SortedMap.get?_insert] at hfound
  split at hfound
  · next heq =>
    cases hfound
    exact heq ▸ hbuffer
  · exact h other found hfound

theorem pushed (h : run.Accounted config) (table payload : String) :
    (run.pushed config table payload).Accounted config :=
  h.insert ((h.bufferFor table).push payload)

theorem flush (h : run.Accounted config) (hbuffer : buffer.Accounts table config.lineSeparator) :
    (run.flush buffer).2.Accounted config := by
  by_cases hrows : buffer.rows = []
  · rwa [flush_of_nil hbuffer hrows]
  · rw [flush_snd hbuffer hrows]
    exact h.insert hbuffer.emptied

theorem deliver (h : run.Accounted config) (flushBytes : Nat) (table payload : String) :
    (run.deliver config flushBytes table payload).2.Accounted config := by
  have hpushed := h.pushed table payload
  rw [deliver_eq]
  split
  · exact hpushed.flush ((h.bufferFor table).push payload)
  · exact hpushed

theorem takeLine (h : run.Accounted connector.config) (flushBytes : Nat) (line : String) :
    (run.takeLine connector flushBytes line).2.Accounted connector.config := by
  rw [takeLine_eq]
  split
  · next d _ =>
    have hcounted : Accounted connector.config
      { run with destination := d, report.records := run.report.records + 1 } := h
    exact hcounted.deliver flushBytes _ _
  · exact h

theorem takeLines (h : run.Accounted connector.config) (flushBytes : Nat)
    (lines : List (Except Text.Utf8.Fault String)) :
    (run.takeLines connector flushBytes lines).2.Accounted connector.config := by
  rw [takeLines_eq]
  refine performAll_invariant (fun input run hrun => ?_) lines h
  cases input with
  | error fault => exact hrun
  | ok line => exact hrun.takeLine flushBytes line

end Accounted

/-! ## The payload of a line -/

/-- Where a payload for a table is once it is delivered. -/
inductive Deposited (config : Config) (table payload : String) (run after : Run) : Prop where
  /-- It waits for the table behind the others, and nothing is written. -/
  | waits {buffer : Buffer} (hbuffer : after.buffers.get? table = some buffer)
      (hrows : buffer.rows = run.waiting table ++ [payload]) (hsink : after.sink = run.sink) :
      Deposited config table payload run after
  /-- All that waited for the table is written with it, and nothing waits any longer. -/
  | written {buffer : Buffer} (hbuffer : after.buffers.get? table = some buffer)
      (hrows : buffer.rows = [])
      (hsink : after.sink = (run.sink.write table
        (Text.join config.lineSeparator (run.waiting table ++ [payload]))).2) :
      Deposited config table payload run after

theorem deliver_snd (h : run.Accounted config) (flushBytes : Nat) (table payload : String) :
    (run.deliver config flushBytes table payload).2 =
      if flushBytes ≤ ((run.bufferFor config table).push payload).size then
        { run.pushed config table payload with
          buffers := (run.pushed config table payload).buffers.insert table
            ((run.bufferFor config table).push payload).emptied
          sink := (run.sink.write table
            (Text.join config.lineSeparator (run.waiting table ++ [payload]))).2 }
      else run.pushed config table payload := by
  have hrows := rows_push_bufferFor config run table payload
  have hne : ((run.bufferFor config table).push payload).rows ≠ [] := by simp [hrows]
  rw [deliver_eq]
  split
  · rw [flush_snd ((h.bufferFor table).push payload) hne, hrows]
    rfl
  · rfl

theorem deposited_deliver (h : run.Accounted config) (flushBytes : Nat) (table payload : String) :
    Deposited config table payload run (run.deliver config flushBytes table payload).2 := by
  rw [deliver_snd h]
  split
  · exact .written ((SortedMap.get?_insert _ _ _ _).trans (if_pos rfl)) rfl rfl
  · exact .waits ((get?_pushed _ _ _ _ _).trans (if_pos rfl))
      (rows_push_bufferFor config run table payload) rfl

/-- The buffers of all other tables are left alone. -/
theorem get?_deliver_of_ne (h : run.Accounted config) (flushBytes : Nat) (payload : String)
    {other : String} (hne : other ≠ table) :
    (run.deliver config flushBytes table payload).2.buffers.get? other =
      run.buffers.get? other := by
  have hpushed : (run.pushed config table payload).buffers.get? other = run.buffers.get? other :=
    (get?_pushed _ _ _ _ _).trans (if_neg hne)
  rw [deliver_snd h]
  split
  · rw [SortedMap.get?_insert, if_neg hne, hpushed]
  · exact hpushed

end TableFeed.Run
