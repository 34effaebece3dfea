import TableFeed.Calendar.Zoned
import TableFeed.Text.Utf8
import TableFeed.ValueType.Basic

/-!
# Types of dates and times

Dates, times of day and timestamps become text.  All but zoned timestamps arrive as
whole numbers of a unit counted from midnight or from 1970-01-01.
-/

namespace TableFeed.ValueType

open Calendar

/-- Converts whole numbers of 64 bits by a function that gives the text, or nothing when the
number is out of range. -/
def counted (name : String) (render : Int → Option (List Char)) (_ : Schema) :
    Json → Except TypeError Json :=
  nullOr fun
    | .number n =>
      match n.int64?.bind render with
      | some text => .ok (.string (String.ofList text))
      | none => .error (.outOfRange name n.text)
    | other => .error (unexpected name other)

/-- Days from 1970-01-01. -/
def date : ValueType where
  name := "date"
  keys := ["org.apache.kafka.connect.data.Date", "io.debezium.time.Date"]
  isNumber := false
  convert := counted "date" fun day => (dateOfDay? day).map Date.chars
  columnType _ := "DATE"

/-- The time of day that is `count` units after midnight. -/
def timeOfDay? (perSecond : Nat) (count : Int) : Option (List Char) :=
  let m := Moment.ofUnits count perSecond
  if isTimeOfDay m.second m.nano then some (timeOfDayChars m.second.toNat m.nano) else none

/-- Times of day in units of which a second has `perSecond`. -/
def timeOf (name : String) (keys : List String) (perSecond : Nat) : ValueType where
  name := name
  keys := keys
  isNumber := false
  convert := counted name (timeOfDay? perSecond)
  columnType _ := "STRING"

/-- Times of day in milliseconds. -/
def time : ValueType :=
  timeOf "time" ["org.apache.kafka.connect.data.Time", "io.debezium.time.Time"] 1000

/-- Times of day in microseconds. -/
def microTime : ValueType :=
  timeOf "micro_time" ["io.debezium.time.MicroTime"] 1000000

/-- Times of day in nanoseconds. -/
def nanoTime : ValueType :=
  timeOf "nano_time" ["io.debezium.time.NanoTime"] 1000000000

/-- Timestamps in units of which a second has `perSecond`. -/
def timestampOf (name : String) (keys : List String) (perSecond : Nat) (columnType : String) :
    ValueType where
  name := name
  keys := keys
  isNumber := false
  convert := counted name fun count =>
    (Moment.ofUnits count perSecond).charsWith? exactFraction
  columnType _ := columnType

/-- Timestamps in milliseconds. -/
def timestamp : ValueType :=
  timestampOf "timestamp" ["org.apache.kafka.connect.data.Timestamp", "io.debezium.time.Timestamp"]
    1000 "DATETIME(3)"

/-- Timestamps in microseconds. -/
def microTimestamp : ValueType :=
  timestampOf "micro_timestamp" ["io.debezium.time.MicroTimestamp"] 1000000 "DATETIME(6)"

/-- Timestamps in nanoseconds. -/
def nanoTimestamp : ValueType :=
  timestampOf "nano_timestamp" ["io.debezium.time.NanoTimestamp"] 1000000000 "DATETIME(6)"

/-- The text in UTC of a timestamp with an offset. -/
def zonedText (text : String) : Except Zoned.Fault (List Char) :=
  match Zoned.read (Text.Utf8.encode text) with
  | .error fault => .error fault
  | .ok moment =>
    match moment.charsWith? microFraction with
    | some chars => .ok chars
    | none => .error .outOfRange

/-- Timestamps with an offset, as text. -/
def zonedTimestamp : ValueType where
  name := "zoned_timestamp"
  keys := ["io.debezium.time.ZonedTimestamp"]
  isNumber := false
  convert _ := nullOr fun
    | .string text =>
      match zonedText text with
      | .ok chars => .ok (.string (String.ofList chars))
      | .error fault => .error (.invalid "zoned_timestamp" (.timestamp text fault.message))
    | other => .error (unexpected "zoned_timestamp" other)
  columnType _ := "DATETIME(6)"

end TableFeed.ValueType
