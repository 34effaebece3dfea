import TableFeed.Proofs.Delivery.Rows
import TableFeed.Proofs.Delivery.Sink

/-!
# Delivery at every threshold

A run keeps one invariant with its sink and its buffers (`Run.Progress`): for every table,
the payloads given so far are in batches that were written and in the buffer, in their
order.  While lines are taken a second one holds (`Run.Filling`): no buffer has reached the
threshold, and every write has.  At the end of the input the buffers are emptied, and the
first invariant says that nothing was lost, repeated or moved
(`complete_delivers_assigned`), whatever the threshold is.
-/

namespace TableFeed

namespace Run

variable {config : Config} {connector : Connector} {flushBytes : Nat} {sink : Sink}
  {given writes : List (String × String)} {run run' : Run} {buffer : Buffer}

/-! ## Writing a buffer -/

/-- What writing a buffer changes in a run: the sink has its batch, and the buffer is empty. -/
structure Flushed (buffer : Buffer) (run run' : Run) : Prop where
  destination : run'.destination = run.destination
  report : run'.report = run.report
  sink : run'.sink = run.sink.afterWrites buffer.batch
  own : run'.buffers.get? buffer.table = some buffer.emptied
  others : ∀ table, table ≠ buffer.table → run'.buffers.get? table = run.buffers.get? table

theorem exists_flushed (hunlimited : run.sink.capacity = none) {table separator : String}
    (haccounts : buffer.Accounts table separator)
    (hbuffer : run.buffers.get? buffer.table = some buffer) :
    ∃ run', run.flush buffer = (.ok (), run') ∧ Flushed buffer run run' := by
  by_cases hrows : buffer.rows = []
  · refine ⟨run, flush_of_nil haccounts hrows run, rfl, rfl, ?_, ?_, fun _ _ => rfl⟩
    · rw [Buffer.batch, if_pos hrows]
      rfl
    · rw [hbuffer, haccounts.emptied_eq hrows]
  · have hwritten : run.sink.write buffer.table (Text.join buffer.separator buffer.rows) =
        (.ok (), run.sink.afterWrites buffer.batch) := by
      rw [Buffer.batch, if_neg hrows, Sink.afterWrites, List.foldl_cons, List.foldl_nil,
        Sink.write_of_unlimited hunlimited]
    refine ⟨{ run with
      buffers := run.buffers.insert buffer.table buffer.emptied
      sink := run.sink.afterWrites buffer.batch }, ?_, rfl, rfl, rfl, ?_, ?_⟩
    · simp [flush, Buffer.drain, Buffer.isEmpty, hrows, hwritten, Buffer.emptied]
    · rw [SortedMap.get?_insert, if_pos rfl]
    · intro table hne
      rw [SortedMap.get?_insert, if_neg hne]

/-! ## The invariant of a run -/

/-- A run after payloads were given to it and batches of them written, from a sink on. -/
structure Progress (config : Config) (sink : Sink) (given writes : List (String × String))
    (run : Run) : Prop where
  /-- The sink has the writes in their order. -/
  sink : run.sink = sink.afterWrites writes
  /-- Every buffer is that of its table and knows its size. -/
  buffers : run.Accounted config
  /-- For every table the payloads given are those written and those that wait. -/
  batched : ∀ table, Batched config.lineSeparator (payloadsFor table given)
    (payloadsFor table writes) (run.waiting table)

theorem progress_start (config : Config) (d : Destination) (sink : Sink) :
    Progress config sink [] [] (start d sink) :=
  ⟨rfl, accounted_start config d sink, fun _ => .nil⟩

namespace Progress

theorem capacity (h : Progress config sink given writes run) (hunlimited : sink.capacity = none) :
    run.sink.capacity = none := by
  rw [h.sink]
  exact Sink.capacity_afterWrites hunlimited writes

theorem waiting_of_get? {table : String} (h : run.buffers.get? table = some buffer) :
    run.waiting table = buffer.rows := by
  rw [waiting, h]
  rfl

theorem waiting_of_flushed (h : Flushed buffer run run') (table : String) :
    run'.waiting table = if table = buffer.table then [] else run.waiting table := by
  split
  · next heq =>
    rw [heq, waiting_of_get? h.own]
    rfl
  · next hne => rw [waiting, h.others table hne, waiting]

/-- The step of the invariant where a buffer is written. -/
theorem flushed (h : Progress config sink given writes run) (hflushed : Flushed buffer run run')
    (hbuffer : run.buffers.get? buffer.table = some buffer) :
    Progress config sink given (writes ++ buffer.batch) run' := by
  have haccounts := h.buffers _ _ hbuffer
  refine ⟨?_, ?_, ?_⟩
  · rw [hflushed.sink, h.sink, Sink.afterWrites_append]
  · intro table other hother
    by_cases htable : table = buffer.table
    · rw [htable, hflushed.own] at hother
      cases hother
      exact htable ▸ haccounts.emptied
    · rw [hflushed.others table htable] at hother
      exact h.buffers table other hother
  · intro table
    have hbatched := h.batched table
    rw [waiting_of_flushed hflushed, payloadsFor_append]
    by_cases htable : table = buffer.table
    · rw [htable, waiting_of_get? hbuffer, ← haccounts.separator] at hbatched
      rw [if_pos htable, htable, ← haccounts.separator]
      exact Buffer.batched_batch hbatched
    · rwa [if_neg htable, Buffer.payloadsFor_batch_of_ne htable, List.append_nil]

/-- The step of the invariant where a payload is given. -/
theorem pushed (h : Progress config sink given writes run) (table payload : String) :
    Progress config sink (given ++ [(table, payload)]) writes
      (run.pushed config table payload) := by
  refine ⟨h.sink, h.buffers.pushed table payload, fun other => ?_⟩
  have hbatched := h.batched other
  rw [waiting, get?_pushed, payloadsFor_append, payloadsFor_singleton]
  by_cases hother : table = other
  · cases hother
    rw [← rows_bufferFor config] at hbatched
    rw [if_pos rfl, if_pos rfl]
    exact hbatched.push payload
  · rw [if_neg hother, if_neg (Ne.symm hother), List.append_nil]
    exact hbatched

end Progress

/-! ## Taking lines -/

/-- A run while it takes lines. -/
structure Filling (config : Config) (flushBytes : Nat) (sink : Sink)
    (given writes : List (String × String)) (run : Run) : Prop
    extends Progress config sink given writes run where
  /-- No buffer has reached the threshold. -/
  below : ∀ table buffer, run.buffers.get? table = some buffer → buffer.size < flushBytes
  /-- Every write has. -/
  full : ∀ write ∈ writes, flushBytes ≤ write.2.utf8ByteSize

theorem filling_start (config : Config) (flushBytes : Nat) (d : Destination) (sink : Sink) :
    Filling config flushBytes sink [] [] (start d sink) :=
  ⟨progress_start config d sink, nofun, nofun⟩

namespace Filling

/-- The invariant says nothing of the destination and of the counts. -/
theorem counted (h : Filling config flushBytes sink given writes run) (d : Destination)
    (report : Report) :
    Filling config flushBytes sink given writes
      { run with destination := d, report := report } :=
  ⟨⟨h.sink, h.buffers, h.batched⟩, h.below, h.full⟩

/-- The step of the invariant where a payload is delivered: its buffer is written when it reaches
the threshold. -/
theorem deliver (h : Filling config flushBytes sink given writes run)
    (hunlimited : sink.capacity = none) (hpositive : 0 < flushBytes) (table payload : String) :
    ∃ run' writes', run.deliver config flushBytes table payload = (.ok (), run') ∧
      run'.destination = run.destination ∧
      run'.report = { run.report with rows := run.report.rows + 1 } ∧
      Filling config flushBytes sink (given ++ [(table, payload)]) writes' run' := by
  have hpushed := h.toProgress.pushed table payload
  have haccounts := (h.buffers.bufferFor table).push payload
  rw [deliver_eq]
  by_cases hreached : flushBytes ≤ ((run.bufferFor config table).push payload).size
  · rw [if_pos hreached]
    have hget : (run.pushed config table payload).buffers.get?
        ((run.bufferFor config table).push payload).table =
          some ((run.bufferFor config table).push payload) :=
      (get?_pushed _ _ _ _ _).trans (if_pos haccounts.table)
    obtain ⟨run', hflush, hflushed⟩ :=
      exists_flushed (hpushed.capacity hunlimited) haccounts hget
    refine ⟨run', _, hflush, hflushed.destination, hflushed.report,
      hpushed.flushed hflushed hget, ?_, ?_⟩
    · intro other buffer hbuffer
      -- The buffer just written is empty, which is below any threshold but zero.
      by_cases hother : other = ((run.bufferFor config table).push payload).table
      · rw [hother, hflushed.own] at hbuffer
        cases hbuffer
        exact hpositive
      · rw [hflushed.others other hother, get?_pushed,
          if_neg (fun heq => hother (heq.trans haccounts.table.symm))] at hbuffer
        exact h.below other buffer hbuffer
    · intro write hwrite
      rcases List.mem_append.1 hwrite with hold | hnew
      · exact h.full write hold
      · rwa [haccounts.size_of_mem_batch hnew]
  · rw [if_neg hreached]
    refine ⟨_, writes, rfl, rfl, rfl, hpushed, ?_, h.full⟩
    intro other buffer hbuffer
    rw [get?_pushed] at hbuffer
    split at hbuffer
    · cases hbuffer
      exact Nat.lt_of_not_le hreached
    · exact h.below other buffer hbuffer

theorem takeLine (h : Filling connector.config flushBytes sink given writes run)
    (hunlimited : sink.capacity = none) (hpositive : 0 < flushBytes) (line : String) :
    ∃ run' writes', run.takeLine connector flushBytes line = (.ok (), run') ∧
      run'.destination = (lineOutcome connector line run.destination).2 ∧
      run'.report = run.report.count (lineOutcome connector line run.destination).1 ∧
      Filling connector.config flushBytes sink
        (given ++ (lineOutcome connector line run.destination).1.payload?.toList) writes' run' := by
  rw [takeLine_eq]
  rcases lineOutcome connector line run.destination with ⟨outcome, d⟩
  cases outcome with
  | payload table text =>
    exact (h.counted d { run.report with records := run.report.records + 1 }).deliver
      hunlimited hpositive table text
  | blank => exact ⟨_, writes, rfl, rfl, rfl, (List.append_nil given).symm ▸ h.counted d _⟩
  | failed kind => exact ⟨_, writes, rfl, rfl, rfl, (List.append_nil given).symm ▸ h.counted d _⟩
  | skipped => exact ⟨_, writes, rfl, rfl, rfl, (List.append_nil given).symm ▸ h.counted d _⟩

/-- A sink without limit lets a run take all lines; destination and counts are those of the lines
alone. -/
theorem takeLines (h : Filling connector.config flushBytes sink given writes run)
    (hunlimited : sink.capacity = none) (hpositive : 0 < flushBytes) (lines : List String) :
    ∃ run' writes', run.takeLines connector flushBytes (lines.map .ok) = (.ok (), run') ∧
      run'.destination = (lineOutcomes connector lines run.destination).2 ∧
      run'.report = run.report.countAll (lineOutcomes connector lines run.destination).1 ∧
      Filling connector.config flushBytes sink
        (given ++ assigned connector lines run.destination) writes' run' := by
  induction lines generalizing run given writes with
  | nil => exact ⟨run, writes, rfl, rfl, rfl, (List.append_nil given).symm ▸ h⟩
  | cons line rest ih =>
    obtain ⟨middle, writes', htaken, hdestination, hreport, hmiddle⟩ :=
      h.takeLine hunlimited hpositive line
    obtain ⟨run', writes'', hrest, hdestination', hreport', hfilling⟩ := ih hmiddle
    refine ⟨run', writes'', ?_, ?_, ?_, ?_⟩
    · rw [List.map_cons, Run.takeLines, htaken]
      exact hrest
    · rw [hdestination', hdestination]
      rfl
    · rw [hreport', hreport, hdestination]
      rfl
    · rwa [hdestination, List.append_assoc, ← assigned_cons] at hfilling

end Filling

/-! ## Writing what is left -/

theorem flushAll_cons {rest : List Buffer} (h : run.flush buffer = (.ok (), run')) :
    run.flushAll (buffer :: rest) = run'.flushAll rest := by
  rw [flushAll, h]

/-- Buffers of different tables are written one after the other, each its batch. -/
theorem Progress.flushAll (h : Progress config sink given writes run)
    (hunlimited : sink.capacity = none) {buffers : List Buffer}
    (hbuffers : ∀ buffer ∈ buffers, run.buffers.get? buffer.table = some buffer)
    (hdistinct : (buffers.map Buffer.table).Nodup) :
    ∃ run', run.flushAll buffers = (.ok (), run') ∧ run'.destination = run.destination ∧
      run'.report = run.report ∧
      Progress config sink given (writes ++ buffers.flatMap Buffer.batch) run' ∧
      ∀ table, run'.waiting table =
        if table ∈ buffers.map Buffer.table then [] else run.waiting table := by
  induction buffers generalizing run writes with
  | nil => exact ⟨run, rfl, rfl, rfl, (List.append_nil writes).symm ▸ h, fun _ => rfl⟩
  | cons buffer rest ih =>
    obtain ⟨hbuffer, hrest⟩ := List.forall_mem_cons.1 hbuffers
    obtain ⟨hnew, hdistinctRest⟩ := List.nodup_cons.1 hdistinct
    obtain ⟨middle, hflush, hflushed⟩ :=
      exists_flushed (h.capacity hunlimited) (h.buffers _ _ hbuffer) hbuffer
    have hothers : ∀ other ∈ rest, middle.buffers.get? other.table = some other := by
      intro other hother
      have hne : other.table ≠ buffer.table := by
        intro heq
        exact hnew (heq ▸ List.mem_map_of_mem hother)
      rw [hflushed.others _ hne, hrest other hother]
    obtain ⟨run', hall, hdestination, hreport, hprogress, hwaiting⟩ :=
      ih (h.flushed hflushed hbuffer) hothers hdistinctRest
    refine ⟨run', ?_, ?_, ?_, ?_, ?_⟩
    · rw [flushAll_cons hflush, hall]
    · rw [hdestination, hflushed.destination]
    · rw [hreport, hflushed.report]
    · rwa [List.flatMap_cons, ← List.append_assoc]
    · intro table
      simp only [hwaiting, waiting_of_flushed hflushed, List.map_cons, List.mem_cons]
      by_cases hrest : table ∈ rest.map Buffer.table
      · simp only [hrest, if_true, or_true]
      · simp only [hrest, if_false, or_false]

/-- The buffers of a run are those of different tables. -/
theorem Progress.values (h : Progress config sink given writes run) :
    run.buffers.values.map Buffer.table = run.buffers.keys := by
  rw [SortedMap.values, SortedMap.keys, List.map_map]
  refine List.map_congr_left fun entry hentry => ?_
  exact (h.buffers _ _ (SortedMap.get?_of_mem hentry)).table

theorem Progress.get?_of_mem_values (h : Progress config sink given writes run)
    (hbuffer : buffer ∈ run.buffers.values) : run.buffers.get? buffer.table = some buffer := by
  obtain ⟨entry, hentry, rfl⟩ := List.mem_map.1 hbuffer
  have hget := SortedMap.get?_of_mem hentry
  rwa [(h.buffers _ _ hget).table]

/-- At the end every buffer is written, and nothing waits. -/
theorem Progress.drained (h : Progress config sink given writes run)
    (hunlimited : sink.capacity = none) :
    ∃ run', run.flushAll run.buffers.values = (.ok (), run') ∧
      run'.destination = run.destination ∧ run'.report = run.report ∧
      Progress config sink given (writes ++ run.buffers.values.flatMap Buffer.batch) run' ∧
      ∀ table, run'.waiting table = [] := by
  have hdistinct : (run.buffers.values.map Buffer.table).Nodup := by
    rw [h.values]
    exact run.buffers.nodup_keys
  obtain ⟨run', hall, hdestination, hreport, hprogress, hwaiting⟩ :=
    h.flushAll hunlimited (fun _ => h.get?_of_mem_values) hdistinct
  refine ⟨run', hall, hdestination, hreport, hprogress, fun table => ?_⟩
  rw [hwaiting, h.values]
  split
  · rfl
  · next hunknown =>
    rw [SortedMap.mem_keys, Bool.not_eq_true, Option.isSome_eq_false_iff,
      Option.isNone_iff_eq_none] at hunknown
    rw [waiting, hunknown]
    rfl

/-- Into a sink without limit, a run over any lines delivers for every table just the payloads of
the lines in their order, whatever the threshold: what it writes for a table joins to the same text
as the payloads that the lines give for it.  Counts and destination do not depend on the threshold
either.  What is written before the end of the input has reached the threshold, and what is written
at the end has not; each write is found in the sink under the name of its table. -/
theorem complete_delivers_assigned (connector : Connector) (d : Destination) {sink : Sink}
    (hunlimited : sink.capacity = none) (lines : List String) :
    ∃ report destination,
      report.records = report.rows + report.skipped + report.failed ∧
      report.rows = (assigned connector lines d).length ∧
      ∀ flushBytes, ∃ middle after early late,
        (start d sink).takeLines connector (max flushBytes 1) (lines.map .ok) =
          (.ok (), middle) ∧
        (start d sink).complete connector flushBytes (lines.map .ok) = (.ok report, after) ∧
        after.destination = destination ∧
        middle.sink = sink.afterWrites early ∧ after.sink = middle.sink.afterWrites late ∧
        middle.sink.chunks.reverse = sink.chunks.reverse ++ Sink.entries early ∧
        after.sink.chunks.reverse = middle.sink.chunks.reverse ++ Sink.entries late ∧
        (∀ table,
          Text.join connector.config.lineSeparator (payloadsFor table (early ++ late)) =
            Text.join connector.config.lineSeparator
              (payloadsFor table (assigned connector lines d))) ∧
        (∀ write ∈ early, max flushBytes 1 ≤ write.2.utf8ByteSize) ∧
        ∀ write ∈ late, write.2.utf8ByteSize < max flushBytes 1 := by
  refine ⟨Report.empty.countAll (lineOutcomes connector lines d).1,
    (lineOutcomes connector lines d).2, Report.balanced_empty.countAll _, ?_, ?_⟩
  · rw [Report.rows_countAll]
    exact Nat.zero_add _
  · intro flushBytes
    obtain ⟨middle, early, htaken, hdestination, hreport, hfilling⟩ :=
      (filling_start connector.config (max flushBytes 1) d sink).takeLines hunlimited
        (Nat.lt_of_lt_of_le Nat.zero_lt_one (Nat.le_max_right _ _)) lines
    obtain ⟨after, hall, hdestination', hreport', hprogress, hwaiting⟩ :=
      hfilling.toProgress.drained hunlimited
    have hlate : after.sink =
        middle.sink.afterWrites (middle.buffers.values.flatMap Buffer.batch) := by
      rw [hprogress.sink, Sink.afterWrites_append, hfilling.sink]
    refine ⟨middle, after, early, middle.buffers.values.flatMap Buffer.batch, htaken, ?_, ?_,
      hfilling.sink, hlate, ?_, ?_, ?_, hfilling.full, ?_⟩
    · simp only [complete, htaken, hall, hreport', hreport]
      rfl
    · rw [hdestination', hdestination]
      rfl
    · rw [hfilling.sink, Sink.chunks_afterWrites hunlimited]
    · rw [hlate, Sink.chunks_afterWrites (hfilling.capacity hunlimited)]
    · intro table
      have hbatched := hprogress.batched table
      rw [hwaiting] at hbatched
      exact hbatched.join_written
    · intro write hwrite
      obtain ⟨buffer, hbuffer, hbatch⟩ := List.mem_flatMap.1 hwrite
      have hget := hfilling.get?_of_mem_values hbuffer
      rw [(hfilling.buffers _ _ hget).size_of_mem_batch hbatch]
      exact hfilling.below _ _ hget

/-- A line and the same line again, with a blank one between them, deliver their two payloads at
the threshold zero. -/
theorem complete_delivers_assigned_keyedLine :
    ∃ report after writes,
      bareStart.complete eventConnector 0 ([keyedLine, " ", keyedLine].map .ok) =
        (.ok report, after) ∧
      report.rows = 2 ∧ after.sink = bareStart.sink.afterWrites writes ∧
      Text.join eventConnector.config.lineSeparator (payloadsFor "t" writes) =
        Text.join eventConnector.config.lineSeparator (payloadsFor "t"
          (assigned eventConnector [keyedLine, " ", keyedLine] bareStart.destination)) := by
  have hunlimited : bareStart.sink.capacity = none := rfl
  have htwo : (assigned eventConnector [keyedLine, " ", keyedLine]
      bareStart.destination).length = 2 := by
    decide +kernel
  obtain ⟨report, destination, -, hrows, hruns⟩ :=
    complete_delivers_assigned eventConnector bareStart.destination hunlimited
      [keyedLine, " ", keyedLine]
  obtain ⟨middle, after, early, late, -, hcomplete, -, hearly, hlate, -, -, hjoined, -, -⟩ :=
    hruns 0
  refine ⟨report, after, early ++ late, hcomplete, hrows.trans htwo, ?_, hjoined "t"⟩
  rw [hlate, hearly, Sink.afterWrites_append]

end Run

end TableFeed
