import TableFeed.Proofs.Delivery.Threshold

/-!
# Lines that leave no trace

A line is *dead* when it is blank, holds no record or holds a tombstone.  Taking a dead line
changes a count at most (`Run.takeLine_of_dead`), and what a run does with any other line does not
depend on its counts (`Run.takeLine_withReport`).  So two runs over an input and over the same input
without some of its dead lines go side by side (`Run.takeLines_of_thinned`): the same destination,
sink and buffers before every line that both of them take, and reports that differ by the lines
left out.  They end alike (`Run.complete_of_thinned`).

Lines are left out of the bytes of an input together with their line feeds, and cutting what remains
gives the lines that remain (`Run.cutLines_of_thinned`).
-/

namespace TableFeed

namespace Run

/-! ## Dead lines -/

/-- A line that is not blank and holds no record. -/
def holdsNoRecord (line : String) : Bool :=
  !Text.isBlankText line && (recordOf? line).isNone

/-- A line that holds a tombstone. -/
def holdsTombstone (line : String) : Bool :=
  !Text.isBlankText line && (recordOf? line).any Record.isTombstone

/-- A line from which no payload can come. -/
def IsDead (line : String) : Prop :=
  Text.isBlankText line = true ∨ holdsNoRecord line = true ∨ holdsTombstone line = true

/-- The text of a line of bytes, without its end. -/
def lineText (raw : List UInt8) : Except Text.Utf8.Fault String :=
  (Text.Utf8.decode raw).map fun cs => String.ofList (stripLineEnd cs)

/-- Lines of bytes, what is left of them when some dead ones are left out, and the texts of those
that are. -/
inductive Thinned : List (List UInt8) → List (List UInt8) → List String → Prop where
  | nil : Thinned [] [] []
  | keep {raws left : List (List UInt8)} {out : List String} (raw : List UInt8) :
      Thinned raws left out → Thinned (raw :: raws) (raw :: left) out
  | drop {raws left : List (List UInt8)} {out : List String} {raw : List UInt8} {line : String} :
      lineText raw = .ok line → IsDead line → Thinned raws left out →
      Thinned (raw :: raws) left (line :: out)

end Run

/-! ## Lines of bytes -/

/-- Lines as they are cut from bytes: each ends with its only line feed, but for a last one that may
have none. -/
inductive AreCut : List (List UInt8) → Prop where
  | nil : AreCut []
  | opened {raw : List UInt8} : raw ≠ [] → lineFeed ∉ raw → AreCut [raw]
  | closed {body : List UInt8} {rest : List (List UInt8)} : lineFeed ∉ body → AreCut rest →
      AreCut ((body ++ [lineFeed]) :: rest)

theorem areCut_cutLines {line : List UInt8} (h : lineFeed ∉ line) (input : List UInt8) :
    AreCut (cutLines line input) := by
  induction input generalizing line with
  | nil =>
    rw [cutLines]
    split
    · exact .nil
    · next hne => exact .opened (by simpa using hne) (by simpa using h)
  | cons b rest ih =>
    rw [cutLines]
    split
    · next hfeed =>
      rw [hfeed, List.reverse_cons]
      exact .closed (by simpa using h) (ih List.not_mem_nil)
    · next hne =>
      refine ih ?_
      rw [List.mem_cons, not_or]
      exact ⟨Ne.symm hne, h⟩

theorem cutLines_append {body : List UInt8} (h : lineFeed ∉ body) (line rest : List UInt8) :
    cutLines line (body ++ rest) = cutLines (body.reverse ++ line) rest := by
  induction body generalizing line with
  | nil => rfl
  | cons b others ih =>
    rw [List.mem_cons, not_or] at h
    obtain ⟨hb, hothers⟩ := h
    rw [List.cons_append, cutLines, if_neg (Ne.symm hb), ih hothers, List.reverse_cons,
      List.append_assoc, List.singleton_append]

theorem AreCut.cutLines_flatten {raws : List (List UInt8)} (h : AreCut raws) :
    cutLines [] raws.flatten = raws := by
  induction h with
  | nil => rfl
  | @opened raw hne hfeed =>
    have hcut := cutLines_append hfeed [] []
    rw [List.append_nil] at hcut
    rw [List.flatten_singleton, hcut, cutLines, List.append_nil, if_neg (by simpa using hne),
      List.reverse_reverse]
  | @closed body rest hfeed _ ih =>
    rw [List.flatten_cons, List.append_assoc, cutLines_append hfeed, List.singleton_append,
      cutLines, if_pos rfl, ih, List.append_nil, List.reverse_cons, List.reverse_reverse]

namespace Run

theorem Thinned.areCut {raws left : List (List UInt8)} {out : List String}
    (h : Thinned raws left out) (hcut : AreCut raws) : AreCut left := by
  induction h with
  | nil => exact .nil
  | keep raw h ih =>
    cases hcut with
    | opened hne hfeed =>
      cases h
      exact .opened hne hfeed
    | closed hfeed hrest => exact .closed hfeed (ih hrest)
  | drop _ _ h ih =>
    cases hcut with
    | opened => exact ih .nil
    | closed _ hrest => exact ih hrest

/-- Cutting the bytes of the lines that are left gives these lines. -/
theorem cutLines_of_thinned {input : List UInt8} {left : List (List UInt8)} {out : List String}
    (h : Thinned (cutLines [] input) left out) : cutLines [] left.flatten = left :=
  (h.areCut (areCut_cutLines List.not_mem_nil input)).cutLines_flatten

end Run

/-! ## Counts -/

namespace Report

/-- How many records failed with errors of a kind. -/
def failuresOf (r : Report) (kind : String) : Nat :=
  (r.failures.get? kind).getD 0

/-- One report counts more than another, by lines that are dead. -/
structure Exceeds (full thin : Report) (out : List String) : Prop where
  records : full.records = thin.records + out.countP fun line => !Text.isBlankText line
  rows : full.rows = thin.rows
  skipped : full.skipped = thin.skipped + out.countP Run.holdsTombstone
  failures : ∀ kind, full.failuresOf kind =
    thin.failuresOf kind + if kind = inputKind then out.countP Run.holdsNoRecord else 0

variable {full thin : Report} {out : List String}

theorem exceeds_refl (r : Report) : r.Exceeds r [] := by
  refine ⟨rfl, rfl, rfl, fun kind => ?_⟩
  simp

/-- A failed record is counted under its kind. -/
theorem failuresOf_count_failed (r : Report) (kind other : String) :
    (r.count (.failed kind)).failuresOf other =
      r.failuresOf other + if other = kind then 1 else 0 := by
  simp only [failuresOf, count, SortedMap.increment, SortedMap.get?_insert]
  split
  · next heq => simp [heq]
  · rfl

/-- What both reports count leaves the difference as it is. -/
theorem Exceeds.count (h : full.Exceeds thin out) (outcome : LineOutcome) :
    (full.count outcome).Exceeds (thin.count outcome) out := by
  have hrecords := h.records
  have hrows := h.rows
  have hskipped := h.skipped
  cases outcome with
  | blank => exact h
  | failed kind =>
    refine ⟨?_, hrows, hskipped, fun other => ?_⟩
    · simp only [Report.count]
      omega
    · rw [failuresOf_count_failed, failuresOf_count_failed, h.failures]
      omega
  | skipped =>
    refine ⟨?_, hrows, ?_, h.failures⟩
    · simp only [Report.count]
      omega
    · simp only [Report.count]
      omega
  | payload table text =>
    refine ⟨?_, ?_, hskipped, h.failures⟩
    · simp only [Report.count]
      omega
    · simp only [Report.count]
      omega

end Report

namespace Run

variable {connector : Connector} {flushBytes : Nat}

/-- What comes of a dead line. -/
inductive DeadOutcome (line : String) : LineOutcome → Prop where
  | blank : Text.isBlankText line = true → DeadOutcome line .blank
  | rejected : Text.isBlankText line = false → recordOf? line = none →
      DeadOutcome line (.failed Report.inputKind)
  | tombstone {record : Record} : Text.isBlankText line = false →
      recordOf? line = some record → record.isTombstone = true → DeadOutcome line .skipped

theorem exists_deadOutcome {line : String} (h : IsDead line) :
    ∃ outcome, DeadOutcome line outcome := by
  rcases h with hblank | hrejected | htombstone
  · exact ⟨_, .blank hblank⟩
  · simp only [holdsNoRecord, Bool.and_eq_true, Bool.not_eq_true', Option.isNone_iff_eq_none]
      at hrejected
    exact ⟨_, .rejected hrejected.1 hrejected.2⟩
  · simp only [holdsTombstone, Bool.and_eq_true, Bool.not_eq_true', Option.any_eq_true]
      at htombstone
    obtain ⟨hblank, record, hrecord, hempty⟩ := htombstone
    exact ⟨_, .tombstone hblank hrecord hempty⟩

theorem DeadOutcome.lineOutcome_eq {line : String} {outcome : LineOutcome}
    (h : DeadOutcome line outcome) (connector : Connector) (d : Destination) :
    lineOutcome connector line d = (outcome, d) := by
  rw [lineOutcome]
  cases h with
  | blank hblank => rw [if_pos hblank]
  | rejected hblank hrecord => simp only [hblank, Bool.false_eq_true, ↓reduceIte, hrecord]
  | tombstone hblank hrecord htombstone =>
    simp only [hblank, Bool.false_eq_true, ↓reduceIte, hrecord, Connector.transform, htombstone]

/-- A dead line that only one of two reports counts adds to their difference. -/
theorem DeadOutcome.exceeds {line : String} {outcome : LineOutcome} (h : DeadOutcome line outcome)
    {full thin : Report} {out : List String} (hexceeds : full.Exceeds thin out) :
    (full.count outcome).Exceeds thin (out ++ [line]) := by
  obtain ⟨hrecords, hrows, hskipped, hfailures⟩ := hexceeds
  cases h with
  | blank hblank =>
    refine ⟨?_, hrows, ?_, fun kind => ?_⟩
    · simpa [List.countP_append, Report.count, hblank] using hrecords
    · simpa [List.countP_append, Report.count, holdsTombstone, hblank] using hskipped
    · simpa [List.countP_append, Report.count, holdsNoRecord, hblank] using hfailures kind
  | rejected hblank hrecord =>
    refine ⟨?_, hrows, ?_, fun kind => ?_⟩
    · simp [List.countP_append, Report.count, hblank, hrecords, Nat.add_assoc]
    · simpa [List.countP_append, Report.count, holdsTombstone, hrecord] using hskipped
    · rw [Report.failuresOf_count_failed, hfailures]
      split
      · simp [List.countP_append, holdsNoRecord, hblank, hrecord, Nat.add_assoc]
      · rfl
  | tombstone hblank hrecord htombstone =>
    refine ⟨?_, hrows, ?_, fun kind => ?_⟩
    · simp [List.countP_append, Report.count, hblank, hrecords, Nat.add_assoc]
    · simp [List.countP_append, Report.count, holdsTombstone, hblank, hrecord, htombstone, hskipped,
        Nat.add_assoc]
    · change full.failuresOf kind = _
      simpa [List.countP_append, holdsNoRecord, hrecord] using hfailures kind

/-! ## Counts have no say -/

/-- The run with other counts. -/
def withReport (report : Report) (run : Run) : Run :=
  { run with report := report }

/-- A dead line changes nothing but the counts. -/
theorem takeLine_of_dead {line : String} {outcome : LineOutcome} (h : DeadOutcome line outcome)
    (connector : Connector) (flushBytes : Nat) (run : Run) :
    run.takeLine connector flushBytes line =
      (.ok (), run.withReport (run.report.count outcome)) := by
  rw [takeLine_eq, h.lineOutcome_eq]
  cases h with
  | blank => rfl
  | rejected => rfl
  | tombstone => rfl

theorem flush_withReport (buffer : Buffer) (run : Run) (report : Report) :
    (run.withReport report).flush buffer =
      ((run.flush buffer).1, (run.flush buffer).2.withReport report) := by
  unfold flush withReport
  rcases buffer.drain with ⟨_ | payload, drained⟩
  · rfl
  · dsimp only
    rcases run.sink.write buffer.table payload with ⟨_ | _, sink⟩
    · rfl
    · rfl

theorem deliver_withReport (config : Config) (flushBytes : Nat) (table payload : String) (run : Run)
    (report : Report) :
    (run.withReport report).deliver config flushBytes table payload =
      ((run.deliver config flushBytes table payload).1,
        (run.deliver config flushBytes table payload).2.withReport
          { report with rows := report.rows + 1 }) := by
  have hbuffer : (run.withReport report).bufferFor config table = run.bufferFor config table := rfl
  rw [deliver_eq, deliver_eq, hbuffer]
  split
  · exact flush_withReport _ (run.pushed config table payload)
      { report with rows := report.rows + 1 }
  · rfl

/-- A run does the same with a line whatever it has counted, and counts what comes of the line. -/
theorem takeLine_withReport (connector : Connector) (flushBytes : Nat) (line : String) (run : Run)
    (report : Report) :
    (run.withReport report).takeLine connector flushBytes line =
      ((run.takeLine connector flushBytes line).1,
        (run.takeLine connector flushBytes line).2.withReport
          (report.count (lineOutcome connector line run.destination).1)) := by
  have hdestination : (run.withReport report).destination = run.destination := rfl
  rw [takeLine_eq, takeLine_eq, hdestination]
  rcases lineOutcome connector line run.destination with ⟨outcome, d⟩
  cases outcome with
  | blank => rfl
  | failed kind => rfl
  | skipped => rfl
  | payload table text =>
    exact deliver_withReport connector.config flushBytes table text
      { run with destination := d, report.records := run.report.records + 1 }
      { report with records := report.records + 1 }

theorem report_takeLine (connector : Connector) (flushBytes : Nat) (line : String) (run : Run) :
    (run.takeLine connector flushBytes line).2.report =
      run.report.count (lineOutcome connector line run.destination).1 := by
  have hsame := takeLine_withReport connector flushBytes line run run.report
  exact congrArg (fun result => result.2.report) hsame

theorem flushAll_withReport (buffers : List Buffer) (run : Run) (report : Report) :
    (run.withReport report).flushAll buffers =
      ((run.flushAll buffers).1, (run.flushAll buffers).2.withReport report) := by
  induction buffers generalizing run with
  | nil => rfl
  | cons buffer rest ih =>
    rw [flushAll, flush_withReport, flushAll]
    rcases run.flush buffer with ⟨_ | _, after⟩
    · rfl
    · exact ih after

theorem report_flushAll (buffers : List Buffer) (run : Run) :
    (run.flushAll buffers).2.report = run.report :=
  congrArg (fun result => result.2.report) (flushAll_withReport buffers run run.report)

/-! ## Runs side by side -/

/-- Lines taken in two runs that differ in their counts alone: they end with one error, or neither
fails and the one report exceeds the other by some dead lines. -/
inductive Alongside (out : List String) :
    Except RunError Unit × Run → Except RunError Unit × Run → Prop where
  | failed (error : RunError) (run : Run) (report : Report) :
      Alongside out (.error error, run) (.error error, run.withReport report)
  | ok {run : Run} {report : Report} : run.report.Exceeds report out →
      Alongside out (.ok (), run) (.ok (), run.withReport report)

/-- Leaving dead lines out changes the counts only, and these by the lines left out. -/
theorem takeLines_of_thinned {raws left : List (List UInt8)} {out done : List String}
    (h : Thinned raws left out) (connector : Connector) (flushBytes : Nat) (run : Run)
    {report : Report} (hreport : run.report.Exceeds report done) :
    Alongside (done ++ out) (run.takeLines connector flushBytes (raws.map lineText))
      ((run.withReport report).takeLines connector flushBytes (left.map lineText)) := by
  induction h generalizing run report done with
  | nil =>
    rw [List.append_nil]
    exact .ok hreport
  | @keep raws left out raw h ih =>
    rw [List.map_cons, List.map_cons]
    cases hline : lineText raw with
    | error fault => exact .failed (.input fault) run report
    | ok line =>
      have hcounted := hreport.count (lineOutcome connector line run.destination).1
      rw [← report_takeLine connector flushBytes] at hcounted
      rw [takeLines, takeLines, takeLine_withReport]
      generalize run.takeLine connector flushBytes line = taken at hcounted ⊢
      obtain ⟨_ | _, after⟩ := taken
      · exact .failed _ after _
      · exact ih after hcounted
  | @drop raws left out raw line hline hdead h ih =>
    obtain ⟨outcome, houtcome⟩ := exists_deadOutcome hdead
    have hcounted := houtcome.exceeds hreport
    rw [List.map_cons, hline, takeLines, takeLine_of_dead houtcome]
    have hrest := ih (run.withReport (run.report.count outcome)) hcounted
    rwa [List.append_assoc, List.singleton_append] at hrest

/-- Leaving dead lines out of an input leaves no trace in what the run writes, in the order of its
writes, in the destination with its tables, statements, calls and cache, or in an error that ends
the run.  The report counts the same payloads and the same failures but those of lines that hold no
record.  It counts as many records, tombstones and failed lines less as were left out. -/
theorem complete_of_thinned {input : List UInt8} {left : List (List UInt8)} {out : List String}
    (h : Thinned (cutLines [] input) left out) (connector : Connector) (d : Destination)
    (sink : Sink) (flushBytes : Nat) :
    let full := (start d sink).complete connector flushBytes (inputLines input)
    let thin := (start d sink).complete connector flushBytes (inputLines left.flatten)
    full.2.sink = thin.2.sink ∧ full.2.destination = thin.2.destination ∧
    (∀ error, full.1 = .error error ↔ thin.1 = .error error) ∧
    ∀ report, full.1 = .ok report → ∃ less, thin.1 = .ok less ∧
      report.records = less.records + out.countP (fun line => !Text.isBlankText line) ∧
      report.rows = less.rows ∧
      report.skipped = less.skipped + out.countP holdsTombstone ∧
      report.failuresOf Report.inputKind =
        less.failuresOf Report.inputKind + out.countP holdsNoRecord ∧
      ∀ kind, kind ≠ Report.inputKind → report.failuresOf kind = less.failuresOf kind := by
  have hlines : inputLines left.flatten = left.map lineText := by
    rw [inputLines, cutLines_of_thinned h]
    rfl
  have htaken := takeLines_of_thinned h connector (max flushBytes 1) (start d sink)
    (Report.exceeds_refl .empty)
  change Alongside _ ((start d sink).takeLines connector (max flushBytes 1) (inputLines input))
    ((start d sink).takeLines connector (max flushBytes 1) (left.map lineText)) at htaken
  rw [hlines]
  unfold complete
  generalize (start d sink).takeLines connector (max flushBytes 1) (inputLines input) = full
    at htaken ⊢
  generalize (start d sink).takeLines connector (max flushBytes 1) (left.map lineText) = thin
    at htaken ⊢
  cases htaken with
  | failed error run report => exact ⟨rfl, rfl, fun _ => Iff.rfl, nofun⟩
  | @ok run report hexceeds =>
    have hbuffers : (run.withReport report).buffers = run.buffers := rfl
    have hreport := report_flushAll run.buffers.values run
    dsimp only
    rw [hbuffers, flushAll_withReport]
    generalize run.flushAll run.buffers.values = flushed at hreport ⊢
    obtain ⟨_ | _, after⟩ := flushed
    · exact ⟨rfl, rfl, fun _ => Iff.rfl, nofun⟩
    · refine ⟨rfl, rfl, fun _ => ⟨nofun, nofun⟩, fun total htotal => ⟨report, rfl, ?_⟩⟩
      cases htotal
      change after.report = run.report at hreport
      rw [hreport]
      refine ⟨hexceeds.records, hexceeds.rows, hexceeds.skipped, ?_, fun kind hkind => ?_⟩
      · simpa using hexceeds.failures Report.inputKind
      · simpa [hkind] using hexceeds.failures kind

/-- A line with a value that belongs to no schema. -/
def plainLine : String := "\x7b\"topic\":\"t\",\"value\":\x7b\"a\":\"x\"\x7d\x7d"

/-- A line that holds a tombstone and nothing else. -/
def bareTombstone : String := "\x7b\"topic\":\"t\"\x7d"

/-- The bytes of lines, each with a line feed. -/
def bytesOf (lines : List String) : List UInt8 :=
  lines.flatMap fun line => Text.Utf8.encode line ++ [lineFeed]

/-- The dead lines around `plainLine` are left out: a blank one, one that holds no record and a
tombstone. -/
theorem complete_of_thinned_plainLine :
    let full := bareStart.complete eventConnector 1
      (inputLines (bytesOf [" ", "x", plainLine, bareTombstone]))
    let thin := bareStart.complete eventConnector 1 (inputLines (bytesOf [plainLine]))
    full.2.sink = thin.2.sink ∧
    ∃ report less, full.1 = .ok report ∧ thin.1 = .ok less ∧
      report.records = less.records + 2 ∧ report.rows = less.rows ∧
      report.skipped = less.skipped + 1 ∧
      report.failuresOf Report.inputKind = less.failuresOf Report.inputKind + 1 := by
  have hcut : cutLines [] (bytesOf [" ", "x", plainLine, bareTombstone]) =
      [bytesOf [" "], bytesOf ["x"], bytesOf [plainLine], bytesOf [bareTombstone]] := by
    decide +kernel
  have hblank : Text.isBlankText " " = true := by decide +kernel
  have hrejected : holdsNoRecord "x" = true := by decide +kernel
  have htombstone : holdsTombstone bareTombstone = true := by decide +kernel
  have hthinned : Thinned (cutLines [] (bytesOf [" ", "x", plainLine, bareTombstone]))
      [bytesOf [plainLine]] [" ", "x", bareTombstone] := by
    rw [hcut]
    refine .drop ?_ (.inl hblank) (.drop ?_ (.inr (.inl hrejected))
      (.keep _ (.drop ?_ (.inr (.inr htombstone)) .nil)))
    · decide +kernel
    · decide +kernel
    · decide +kernel
  have hrecords : [" ", "x", bareTombstone].countP (fun line => !Text.isBlankText line) = 2 := by
    decide +kernel
  have hskipped : [" ", "x", bareTombstone].countP holdsTombstone = 1 := by decide +kernel
  have hfailed : [" ", "x", bareTombstone].countP holdsNoRecord = 1 := by decide +kernel
  have hfinished : (bareStart.complete eventConnector 1
      (inputLines (bytesOf [" ", "x", plainLine, bareTombstone]))).1.toOption.isSome = true := by
    decide +kernel
  obtain ⟨hsink, -, -, hcounts⟩ := complete_of_thinned hthinned eventConnector
    bareStart.destination bareStart.sink 1
  rw [List.flatten_singleton] at hsink hcounts
  rw [hrecords, hskipped, hfailed] at hcounts
  rcases hreport : (bareStart.complete eventConnector 1
    (inputLines (bytesOf [" ", "x", plainLine, bareTombstone]))).1 with _ | report
  · rw [hreport] at hfinished
    cases hfinished
  · obtain ⟨less, hless, hrecords, hrows, hskipped, hfailures, -⟩ := hcounts report hreport
    exact ⟨hsink, report, less, hreport, hless, hrecords, hrows, hskipped, hfailures⟩

end Run

end TableFeed
