import TableFeed.Proofs.Delivery.Threshold

/-!
# What a run hands to its sink

A run hears from its sink only whether a write failed, and the first write that fails ends it.
So what it hands over does not depend on the sink: every operation of a run has a *script*, the
batches that it hands over one after the other, and what comes of it if all of them are taken
(`Run.Scripted`).  A sink that does not take one of them ends the operation there, with the error
of that write, and is left as that write left it.

Scripts of operations in a row are joined (`Scripted.andThen`), and so a whole run has one
(`Run.exists_script_complete`), in which no write fails.
-/

namespace TableFeed

/-- What is handed to a sink at once: the text for a table, and how many payloads it holds. -/
structure Batch where
  rows : Nat
  table : String
  text : String

namespace Run

variable {α : Type} {connector : Connector} {flushBytes : Nat}

/-- Hands a batch to a sink. -/
def hand (batch : Batch) (sink : Sink) : Except RunError Unit × Sink :=
  match sink.write batch.table batch.text with
  | (.error error, sink) => (.error (.write batch.rows batch.table sink.id error), sink)
  | (.ok (), sink) => (.ok (), sink)

/-- Hands batches to a sink up to the first that it does not take. -/
def handOver : List Batch → Sink → Except RunError Unit × Sink :=
  performAll hand

/-! ## Scripts -/

/-- What an operation does to a run, whatever its sink is. -/
structure Scripted (op : Run → Except RunError α × Run) (run : Run) (batches : List Batch)
    (result : Except RunError α) (after : Run) : Prop where
  /-- Where the sink takes all batches, the result and the run after it are always the same but for
  the sink. -/
  taken : ∀ {sink sink' : Sink}, handOver batches sink = (.ok (), sink') →
    op { run with sink := sink } = (result, { after with sink := sink' })
  /-- Where it does not, the operation ends with the error and nothing more is written. -/
  refused : ∀ {sink sink' : Sink} {error : RunError},
    handOver batches sink = (.error error, sink') →
      (op { run with sink := sink }).1 = .error error ∧
        (op { run with sink := sink }).2.sink = sink'

theorem andThen_of_error {first : Run → Except RunError Unit × Run}
    {next : Run → Except RunError α × Run} {run : Run} {sink : Sink} {error : RunError}
    (hresult : (first run).1 = .error error) (hsink : (first run).2.sink = sink) :
    (andThen first next run).1 = .error error ∧ (andThen first next run).2.sink = sink := by
  unfold andThen
  split
  · next heq =>
    rw [heq] at hresult hsink
    exact ⟨congrArg Except.error (Except.error.inj hresult), hsink⟩
  · next heq =>
    rw [heq] at hresult
    cases hresult

namespace Scripted

variable {op : Run → Except RunError α × Run} {first : Run → Except RunError Unit × Run}
  {run middle after : Run} {batches later : List Batch} {result : Except RunError α}

/-- An operation that leaves the sink alone hands nothing over. -/
theorem of_silent
    (h : ∀ sink, op { run with sink := sink } = (result, { after with sink := sink })) :
    Scripted op run [] result after where
  taken := fun {sink _} htaken => by
    cases htaken
    exact h sink
  refused := fun hrefused => by cases hrefused

/-- Where two operations do the same, they have the same script. -/
theorem congr {other : Run → Except RunError α × Run} {run' : Run}
    (h : Scripted other run' batches result after)
    (heq : ∀ sink, op { run with sink := sink } = other { run' with sink := sink }) :
    Scripted op run batches result after := by
  refine ⟨fun {sink _} htaken => ?_, fun {sink _ _} hrefused => ?_⟩
  · rw [heq]
    exact h.taken htaken
  · rw [heq]
    exact h.refused hrefused

theorem andThen (h : Scripted first run batches (.ok ()) middle)
    (hnext : Scripted op middle later result after) :
    Scripted (andThen first op) run (batches ++ later) result after := by
  refine ⟨fun {sink sink'} htaken => ?_, fun {sink sink' error} hrefused => ?_⟩
  · rw [handOver, performAll_append, TableFeed.andThen] at htaken
    rcases hfirst : performAll hand batches sink with ⟨_ | _, between⟩
    · rw [hfirst] at htaken
      cases htaken
    · rw [hfirst] at htaken
      rw [TableFeed.andThen, h.taken hfirst]
      exact hnext.taken htaken
  · rw [handOver, performAll_append, TableFeed.andThen] at hrefused
    rcases hfirst : performAll hand batches sink with ⟨_ | _, between⟩
    · rw [hfirst] at hrefused
      cases hrefused
      obtain ⟨hresult, hsink⟩ := h.refused hfirst
      exact andThen_of_error hresult hsink
    · rw [hfirst] at hrefused
      rw [TableFeed.andThen, h.taken hfirst]
      exact hnext.refused hrefused

/-- What follows an operation that fails is not done. -/
theorem andThen_failed {error : RunError} (h : Scripted first run batches (.error error) after)
    (next : Run → Except RunError α × Run) :
    Scripted (TableFeed.andThen first next) run batches (.error error) after := by
  refine ⟨fun htaken => ?_, fun hrefused => ?_⟩
  · rw [TableFeed.andThen, h.taken htaken]
  · obtain ⟨hresult, hsink⟩ := h.refused hrefused
    exact andThen_of_error hresult hsink

end Scripted

/-! ## The script of a run -/

/-- An operation has a script in which it does not fail. -/
def HasScript (op : Run → Except RunError Unit × Run) (run : Run) : Prop :=
  ∃ batches after, Scripted op run batches (.ok ()) after

theorem flush_hasScript (buffer : Buffer) (run : Run) : HasScript (flush buffer) run := by
  rcases hdrain : buffer.drain with ⟨_ | payload, drained⟩
  · refine ⟨[], run, .of_silent fun sink => ?_⟩
    simp only [flush, hdrain]
  · refine ⟨[⟨buffer.rows.length, buffer.table, payload⟩],
      { run with buffers := run.buffers.insert buffer.table drained }, ?_, ?_⟩
    · intro sink sink' htaken
      rw [handOver, performAll_singleton, hand] at htaken
      simp only [flush, hdrain]
      generalize sink.write buffer.table payload = written at htaken ⊢
      obtain ⟨_ | _, _⟩ := written
      · cases htaken
      · cases htaken
        rfl
    · intro sink sink' error hrefused
      rw [handOver, performAll_singleton, hand] at hrefused
      simp only [flush, hdrain]
      generalize sink.write buffer.table payload = written at hrefused ⊢
      obtain ⟨_ | _, _⟩ := written
      · cases hrefused
        exact ⟨rfl, rfl⟩
      · cases hrefused

theorem deliver_hasScript (config : Config) (flushBytes : Nat) (table payload : String)
    (run : Run) : HasScript (deliver config flushBytes table payload) run := by
  by_cases hreached : flushBytes ≤ ((run.bufferFor config table).push payload).size
  · obtain ⟨batches, after, hscripted⟩ :=
      flush_hasScript ((run.bufferFor config table).push payload) (run.pushed config table payload)
    exact ⟨batches, after, hscripted.congr fun sink => if_pos hreached⟩
  · exact ⟨[], run.pushed config table payload, .of_silent fun sink => if_neg hreached⟩

theorem takeLine_hasScript (connector : Connector) (flushBytes : Nat) (line : String) (run : Run) :
    HasScript (takeLine connector flushBytes line) run := by
  rcases houtcome : lineOutcome connector line run.destination with ⟨outcome, d⟩
  -- A line without a payload changes the destination and the counts only.
  have hsilent : (∀ sink, takeLine connector flushBytes line { run with sink := sink } =
      (.ok (), { run with sink := sink, destination := d, report := run.report.count outcome })) →
      HasScript (takeLine connector flushBytes line) run :=
    fun h => ⟨[], { run with destination := d, report := run.report.count outcome }, .of_silent h⟩
  cases outcome with
  | payload table text =>
    obtain ⟨batches, after, hscripted⟩ := deliver_hasScript connector.config flushBytes table text
      { run with destination := d, report.records := run.report.records + 1 }
    refine ⟨batches, after, hscripted.congr fun sink => ?_⟩
    simp only [takeLine_eq, houtcome]
  | blank => exact hsilent fun sink => by simp only [takeLine_eq, houtcome]
  | failed kind => exact hsilent fun sink => by simp only [takeLine_eq, houtcome]
  | skipped => exact hsilent fun sink => by simp only [takeLine_eq, houtcome]

theorem flushAll_hasScript (buffers : List Buffer) (run : Run) :
    HasScript (flushAll buffers) run := by
  induction buffers generalizing run with
  | nil => exact ⟨[], run, .of_silent fun _ => rfl⟩
  | cons buffer rest ih =>
    obtain ⟨batches, middle, hbuffer⟩ := flush_hasScript buffer run
    obtain ⟨later, after, hrest⟩ := ih middle
    refine ⟨batches ++ later, after, (hbuffer.andThen hrest).congr fun sink => ?_⟩
    rw [flushAll_eq, performAll, ← funext (flushAll_eq rest)]

/-- No write has failed: there is a result, or the input is at fault. -/
def Unhindered (result : Except RunError α) : Prop :=
  ∀ rows table sink error, result ≠ .error (.write rows table sink error)

theorem exists_script_takeLines (connector : Connector) (flushBytes : Nat)
    (lines : List (Except Text.Utf8.Fault String)) (run : Run) :
    ∃ batches result after,
      Scripted (takeLines connector flushBytes lines) run batches result after ∧
        Unhindered result := by
  induction lines generalizing run with
  | nil => exact ⟨[], .ok (), run, .of_silent fun _ => rfl, nofun⟩
  | cons first rest ih =>
    cases first with
    | error fault => exact ⟨[], .error (.input fault), run, .of_silent fun _ => rfl, nofun⟩
    | ok line =>
      obtain ⟨batches, middle, hline⟩ := takeLine_hasScript connector flushBytes line run
      obtain ⟨later, result, after, hrest, hresult⟩ := ih middle
      exact ⟨batches ++ later, result, after,
        (hline.andThen hrest).congr fun _ => takeLines_cons .., hresult⟩

/-- Writes what is left in the buffers, and answers the report. -/
def finish (run : Run) : Except RunError Report × Run :=
  andThen (flushAll run.buffers.values) (fun run => (.ok run.report, run)) run

theorem complete_eq (connector : Connector) (flushBytes : Nat)
    (lines : List (Except Text.Utf8.Fault String)) :
    complete connector flushBytes lines =
      andThen (takeLines connector (max flushBytes 1) lines) finish := by
  funext run
  simp only [complete, finish, andThen]
  rcases run.takeLines connector (max flushBytes 1) lines with ⟨_ | _, middle⟩
  · rfl
  · dsimp only
    rcases middle.flushAll middle.buffers.values with ⟨_ | _, _⟩
    · rfl
    · rfl

theorem exists_script_finish (run : Run) :
    ∃ batches after, Scripted finish run batches (.ok after.report) after := by
  obtain ⟨batches, after, hflushed⟩ := flushAll_hasScript run.buffers.values run
  have hreport : Scripted (fun run : Run => (.ok run.report, run)) after []
      (.ok after.report : Except RunError Report) after := .of_silent fun _ => rfl
  exact ⟨batches ++ [], after, (hflushed.andThen hreport).congr fun _ => rfl⟩

/-- A run over any lines has a script, in which no write fails. -/
theorem exists_script_complete (connector : Connector) (flushBytes : Nat)
    (lines : List (Except Text.Utf8.Fault String)) (run : Run) :
    ∃ batches result after,
      Scripted (complete connector flushBytes lines) run batches result after ∧
        Unhindered result := by
  rw [complete_eq]
  obtain ⟨batches, result, middle, hlines, hresult⟩ :=
    exists_script_takeLines connector (max flushBytes 1) lines run
  cases result with
  | error error =>
    refine ⟨batches, .error error, middle, hlines.andThen_failed finish, ?_⟩
    intro rows table sink cause heq
    exact hresult rows table sink cause (congrArg Except.error (Except.error.inj heq))
  | ok _ =>
    obtain ⟨later, after, hfinish⟩ := exists_script_finish middle
    exact ⟨_, _, after, hlines.andThen hfinish, nofun⟩

end Run

end TableFeed
