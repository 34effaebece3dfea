import TableFeed.Delivery.Run
import TableFeed.Proofs.Entries
import TableFeed.Proofs.Except

/-!
# What comes of lines

What a line gives depends on the line and on the destination before it, not on buffers and
sinks: `Run.lineOutcome` is the part of `Run.takeLine` that a flush threshold has no say in.
A line without a payload changes the destination and the counts only, and one with a payload
has it delivered (`Run.takeLine_eq`).

Lines are taken one after the other up to the first that fails, and buffers written so
(`Run.takeLines_eq`, `Run.flushAll_eq`).

Every line that is not blank is counted twice, as a record and as what came of it, so the
counts of a report balance (`Report.Balanced.count`).
-/

namespace TableFeed

/-- What comes of a line of input. -/
inductive LineOutcome where
  /-- It is blank. -/
  | blank
  /-- It failed with an error of a kind. -/
  | failed (kind : String)
  /-- It is a tombstone. -/
  | skipped
  /-- It gives a payload for a table. -/
  | payload (table text : String)

/-- The payload with its table, when there is one. -/
def LineOutcome.payload? : LineOutcome → Option (String × String)
  | .payload table text => some (table, text)
  | _ => none

/-! ## Reports -/

namespace Report

/-- The report with one more line counted. -/
def count (r : Report) : LineOutcome → Report
  | .blank => r
  | .failed kind =>
    { r with records := r.records + 1, failures := r.failures.increment kind }
  | .skipped => { r with records := r.records + 1, skipped := r.skipped + 1 }
  | .payload _ _ => { r with records := r.records + 1, rows := r.rows + 1 }

/-- Every record has become a payload, was skipped or has failed. -/
def Balanced (r : Report) : Prop :=
  r.records = r.rows + r.skipped + r.failed

theorem balanced_empty : empty.Balanced := rfl

theorem failed_eq_total (r : Report) : r.failed = Entries.total r.failures.entries := by
  rw [failed, SortedMap.values, Entries.foldl_add, Nat.zero_add]

theorem Balanced.count {r : Report} (h : r.Balanced) (outcome : LineOutcome) :
    (r.count outcome).Balanced := by
  simp only [Balanced, failed_eq_total] at h ⊢
  cases outcome with
  | blank => exact h
  | failed kind =>
    have htotal := SortedMap.total_increment r.failures kind
    simp only [Report.count]
    omega
  | skipped =>
    simp only [Report.count]
    omega
  | payload table text =>
    simp only [Report.count]
    omega

theorem rows_count (r : Report) (outcome : LineOutcome) :
    (r.count outcome).rows = r.rows + outcome.payload?.toList.length := by
  cases outcome with
  | blank => rfl
  | failed kind => rfl
  | skipped => rfl
  | payload table text => rfl

/-- The counts of lines one after the other. -/
def countAll (r : Report) (outcomes : List LineOutcome) : Report :=
  outcomes.foldl count r

theorem Balanced.countAll {r : Report} (h : r.Balanced) (outcomes : List LineOutcome) :
    (r.countAll outcomes).Balanced := by
  induction outcomes generalizing r with
  | nil => exact h
  | cons outcome rest ih => exact ih (h.count outcome)

theorem rows_countAll (r : Report) (outcomes : List LineOutcome) :
    (r.countAll outcomes).rows = r.rows + (outcomes.filterMap LineOutcome.payload?).length := by
  induction outcomes generalizing r with
  | nil => rfl
  | cons outcome rest ih =>
    change ((r.count outcome).countAll rest).rows = _
    rw [ih, rows_count, List.filterMap_cons]
    cases outcome.payload? with
    | none => rfl
    | some payload =>
      simp only [Option.toList_some, List.length_cons, List.length_nil]
      omega

end Report

/-! ## Lines -/

namespace Run

/-- What comes of a line, and the destination after it. -/
def lineOutcome (connector : Connector) (line : String) (d : Destination) :
    LineOutcome × Destination :=
  if Text.isBlankText line then (.blank, d)
  else
    match recordOf? line with
    | none => (.failed Report.inputKind, d)
    | some record =>
      match connector.transform record d with
      | (.error error, d) => (.failed error.kind, d)
      | (.ok none, d) => (.skipped, d)
      | (.ok (some payload), d) => (.payload (tableOf connector.config record.topic) payload, d)

/-- What comes of lines one after the other, and the destination after them. -/
def lineOutcomes (connector : Connector) : List String → Destination →
    List LineOutcome × Destination
  | [], d => ([], d)
  | line :: rest, d =>
    let (outcome, d) := lineOutcome connector line d
    let (outcomes, d) := lineOutcomes connector rest d
    (outcome :: outcomes, d)

/-- The payloads of lines in order, each with the table it is for. -/
def assigned (connector : Connector) (lines : List String) (d : Destination) :
    List (String × String) :=
  (lineOutcomes connector lines d).1.filterMap LineOutcome.payload?

theorem assigned_cons (connector : Connector) (line : String) (rest : List String)
    (d : Destination) :
    assigned connector (line :: rest) d =
      (lineOutcome connector line d).1.payload?.toList ++
        assigned connector rest (lineOutcome connector line d).2 := by
  change ((lineOutcome connector line d).1 :: (lineOutcomes connector rest
    (lineOutcome connector line d).2).1).filterMap LineOutcome.payload? = _
  rw [List.filterMap_cons]
  cases (lineOutcome connector line d).1.payload? with
  | none => rfl
  | some payload => rfl

/-- A line with a payload has it delivered; any other changes the destination and the counts
only. -/
theorem takeLine_eq (connector : Connector) (flushBytes : Nat) (line : String) (run : Run) :
    run.takeLine connector flushBytes line =
      match lineOutcome connector line run.destination with
      | (.payload table text, d) =>
        { run with destination := d, report.records := run.report.records + 1 }.deliver
          connector.config flushBytes table text
      | (outcome, d) =>
        (.ok (), { run with destination := d, report := run.report.count outcome }) := by
  rw [takeLine, lineOutcome]
  by_cases hblank : Text.isBlankText line = true
  · rw [if_pos hblank, if_pos hblank]
    rfl
  · rw [if_neg hblank, if_neg hblank, takeRecord]
    cases recordOf? line with
    | none => rfl
    | some record =>
      dsimp only
      rcases connector.transform record run.destination with ⟨_ | _ | payload, d⟩
      · rfl
      · rfl
      · rfl

/-! ## Lines one after the other -/

/-- Takes what was read of a line. -/
def takeInput (connector : Connector) (flushBytes : Nat) (input : Except Text.Utf8.Fault String)
    (run : Run) : Except RunError Unit × Run :=
  match input with
  | .error fault => (.error (.input fault), run)
  | .ok line => run.takeLine connector flushBytes line

theorem takeLines_eq (connector : Connector) (flushBytes : Nat)
    (lines : List (Except Text.Utf8.Fault String)) (run : Run) :
    run.takeLines connector flushBytes lines =
      performAll (takeInput connector flushBytes) lines run := by
  induction lines generalizing run with
  | nil => rfl
  | cons first rest ih =>
    cases first with
    | error fault => rfl
    | ok line =>
      simp only [takeLines, performAll, andThen, takeInput]
      rcases run.takeLine connector flushBytes line with ⟨_ | _, middle⟩
      · rfl
      · exact ih middle

theorem takeLines_append (connector : Connector) (flushBytes : Nat)
    (first second : List (Except Text.Utf8.Fault String)) (run : Run) :
    run.takeLines connector flushBytes (first ++ second) =
      andThen (takeLines connector flushBytes first) (takeLines connector flushBytes second)
        run := by
  rw [takeLines_eq, performAll_append, ← funext (takeLines_eq connector flushBytes first),
    ← funext (takeLines_eq connector flushBytes second)]

theorem takeLines_cons (connector : Connector) (flushBytes : Nat) (line : String)
    (rest : List (Except Text.Utf8.Fault String)) (run : Run) :
    run.takeLines connector flushBytes (.ok line :: rest) =
      andThen (takeLine connector flushBytes line) (takeLines connector flushBytes rest) run := by
  rw [takeLines_eq, performAll, ← funext (takeLines_eq connector flushBytes rest)]
  rfl

theorem flushAll_eq (buffers : List Buffer) (run : Run) :
    run.flushAll buffers = performAll flush buffers run := by
  induction buffers generalizing run with
  | nil => rfl
  | cons buffer rest ih =>
    simp only [flushAll, performAll, andThen]
    rcases run.flush buffer with ⟨_ | _, middle⟩
    · rfl
    · exact ih middle

end Run

end TableFeed
