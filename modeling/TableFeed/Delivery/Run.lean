import TableFeed.Connector
import TableFeed.Delivery.Buffer
import TableFeed.Delivery.Sink
import TableFeed.Record.Line
import TableFeed.Text.Blank

/-!
# Runs

A run takes lines of input through a connector.  The payloads are buffered for each
table; a buffer that has reached the threshold is written to the sink, and at the end
of the input all buffers are, in the order of their tables.

A record that fails is counted and passed over.  Only input that is no text and a sink
that fails end a run before its time.
-/

namespace TableFeed

/-- The threshold of a buffer when none is given. -/
def defaultFlushBytes : Nat := 1048576

/-- What came of a run. -/
structure Report where
  /-- The lines that are not blank. -/
  records : Nat
  /-- The payloads. -/
  rows : Nat
  /-- The tombstones. -/
  skipped : Nat
  /-- The failed records by the kind of their error. -/
  failures : SortedMap Nat
deriving DecidableEq

namespace Report

/-- Before the first line. -/
def empty : Report :=
  ⟨0, 0, 0, .empty⟩

/-- The number of failed records. -/
def failed (r : Report) : Nat :=
  r.failures.values.foldl (· + ·) 0

/-- The kind under which lines that hold no record are counted. -/
def inputKind : String := "input"

end Report

/-- Why a run ended before its time. -/
inductive RunError where
  /-- A line of input is no text. -/
  | input (fault : Text.Utf8.Fault)
  /-- Payloads could not be written. -/
  | write (rows : Nat) (table sink : String) (error : SinkError)
deriving DecidableEq, Repr

/-- The wording of an error: what was tried, what happened and why. -/
def RunError.message : RunError → String
  | .input fault => "read input: " ++ fault.message
  | .write rows table sink error =>
    "write " ++ Text.natText rows ++ " rows for table " ++ table ++ " to sink " ++ sink ++ ": "
      ++ error.message ++ ": " ++ error.cause

/-- The state of a run. -/
structure Run where
  /-- The destination. -/
  destination : Destination
  /-- The sink. -/
  sink : Sink
  /-- The buffers by table. -/
  buffers : SortedMap Buffer
  /-- What came of it so far. -/
  report : Report

namespace Run

/-- Before the first line. -/
def start (destination : Destination) (sink : Sink) : Run :=
  ⟨destination, sink, .empty, .empty⟩

/-- Counts a record that failed. -/
def countFailure (run : Run) (kind : String) : Run :=
  { run with report.failures := run.report.failures.increment kind }

/-- Writes what a buffer holds, if it holds anything. -/
def flush (buffer : Buffer) (run : Run) : Except RunError Unit × Run :=
  match buffer.drain with
  | (none, _) => (.ok (), run)
  | (some payload, drained) =>
    let run := { run with buffers := run.buffers.insert buffer.table drained }
    match run.sink.write buffer.table payload with
    | (.error error, sink) =>
      (.error (.write buffer.rows.length buffer.table sink.id error), { run with sink := sink })
    | (.ok (), sink) => (.ok (), { run with sink := sink })

/-- The name that payloads of a topic are buffered under: the topic's table, or the topic itself
when it has none. -/
def tableOf (config : Config) (topic : String) : String :=
  match config.tableFor topic with
  | .ok table => table
  | .error _ => topic

/-- Buffers a payload, and writes the buffer when it has reached the threshold. -/
def deliver (config : Config) (flushBytes : Nat) (table payload : String) (run : Run) :
    Except RunError Unit × Run :=
  let buffer := (run.buffers.get? table).getD (.empty table config.lineSeparator)
  let buffer := buffer.push payload
  let run := { run with
    report.rows := run.report.rows + 1
    buffers := run.buffers.insert table buffer }
  if flushBytes ≤ buffer.size then run.flush buffer else (.ok (), run)

/-- The record of a line; none when the line holds none. -/
def recordOf? (line : String) : Option Record :=
  (Line.ofText? line).bind fun line => line.toRecord.toOption

/-- Takes one line that is not blank. -/
def takeRecord (connector : Connector) (flushBytes : Nat) (line : String) (run : Run) :
    Except RunError Unit × Run :=
  let run := { run with report.records := run.report.records + 1 }
  match recordOf? line with
  | none => (.ok (), run.countFailure Report.inputKind)
  | some record =>
    match connector.transform record run.destination with
    | (.error error, destination) =>
      (.ok (), { run with destination := destination }.countFailure error.kind)
    | (.ok none, destination) =>
      (.ok (), { run with destination, report.skipped := run.report.skipped + 1 })
    | (.ok (some payload), destination) =>
      { run with destination := destination }.deliver connector.config flushBytes
        (tableOf connector.config record.topic) payload

/-- Takes one line. -/
def takeLine (connector : Connector) (flushBytes : Nat) (line : String) (run : Run) :
    Except RunError Unit × Run :=
  if Text.isBlankText line then (.ok (), run) else run.takeRecord connector flushBytes line

/-- Takes lines up to the first that is no text or whose delivery fails. -/
def takeLines (connector : Connector) (flushBytes : Nat) :
    List (Except Text.Utf8.Fault String) → Run → Except RunError Unit × Run
  | [], run => (.ok (), run)
  | .error fault :: _, run => (.error (.input fault), run)
  | .ok line :: rest, run =>
    match run.takeLine connector flushBytes line with
    | (.error error, run) => (.error error, run)
    | (.ok (), run) => takeLines connector flushBytes rest run

/-- Writes buffers one after the other up to the first that fails. -/
def flushAll : List Buffer → Run → Except RunError Unit × Run
  | [], run => (.ok (), run)
  | buffer :: rest, run =>
    match run.flush buffer with
    | (.error error, run) => (.error error, run)
    | (.ok (), run) => flushAll rest run

/-- Takes all lines and writes what is left in the buffers.  A threshold of zero is one of one
byte. -/
def complete (connector : Connector) (flushBytes : Nat)
    (lines : List (Except Text.Utf8.Fault String)) (run : Run) : Except RunError Report × Run :=
  match run.takeLines connector (max flushBytes 1) lines with
  | (.error error, run) => (.error error, run)
  | (.ok (), run) =>
    match run.flushAll run.buffers.values with
    | (.error error, run) => (.error error, run)
    | (.ok (), run) => (.ok run.report, run)

end Run

/-! ## Lines of bytes -/

/-- The line feed. -/
def lineFeed : UInt8 := 10

/-- The lines of bytes, each with its line feed; `line` holds the bytes of the line begun, last
first. -/
def cutLines (line : List UInt8) : List UInt8 → List (List UInt8)
  | [] => if line = [] then [] else [line.reverse]
  | b :: rest =>
    if b = lineFeed then (b :: line).reverse :: cutLines [] rest else cutLines (b :: line) rest

/-- The characters of a line without the line feed at its end, or a carriage return and the line
feed. -/
def stripLineEnd (line : List Char) : List Char :=
  match line.reverse with
  | '\n' :: '\r' :: rest => rest.reverse
  | '\n' :: rest => rest.reverse
  | _ => line

/-- The lines of an input; a line that is no text is a fault, with its index within the line. -/
def inputLines (input : List UInt8) : List (Except Text.Utf8.Fault String) :=
  (cutLines [] input).map fun line =>
    (Text.Utf8.decode line).map fun cs => String.ofList (stripLineEnd cs)

end TableFeed
