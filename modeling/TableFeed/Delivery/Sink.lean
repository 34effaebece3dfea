import TableFeed.Text.Utf8

/-!
# Sinks

A sink writes payloads one after the other, each after a line that names its table.
It has room for a number of bytes, or for any number.  Bytes for which there is no
room are lost and the write fails; those before them stay written.
-/

namespace TableFeed

/-- Why a write failed. -/
inductive SinkError where
  /-- There was no room left. -/
  | full
deriving DecidableEq, Repr

/-- The name of an error's kind. -/
def SinkError.kind : SinkError → String
  | .full => "io error"

/-- The cause of an error in words. -/
def SinkError.cause : SinkError → String
  | .full => "write zero"

/-- The wording of an error. -/
def SinkError.message (error : SinkError) : String :=
  "i/o error: " ++ error.cause

/-- Where payloads are written to. -/
structure Sink where
  /-- The name of the sink. -/
  id : String
  /-- The room for bytes; none when there is no limit. -/
  capacity : Option Nat
  /-- The bytes written, in the order of the writes, each write's bytes apart. -/
  chunks : List (List UInt8)
  /-- The number of bytes written. -/
  size : Nat

namespace Sink

/-- A sink to which nothing is written yet. -/
def empty (id : String) (capacity : Option Nat) : Sink :=
  ⟨id, capacity, [], 0⟩

/-- The bytes written. -/
def bytes (s : Sink) : List UInt8 :=
  s.chunks.reverse.flatten

/-- The room left for bytes; none when there is no limit. -/
def room (s : Sink) : Option Nat :=
  s.capacity.map (· - s.size)

/-- Writes bytes as far as there is room. -/
def writeBytes (data : List UInt8) (s : Sink) : Except SinkError Unit × Sink :=
  let fitting := s.room.elim data data.take
  let s := { s with chunks := fitting :: s.chunks, size := s.size + fitting.length }
  if fitting.length = data.length then (.ok (), s) else (.error .full, s)

/-- Writes several stretches of bytes up to the first that does not fit. -/
def writeAll : List (List UInt8) → Sink → Except SinkError Unit × Sink
  | [], s => (.ok (), s)
  | data :: rest, s =>
    match s.writeBytes data with
    | (.error error, s) => (.error error, s)
    | (.ok (), s) => writeAll rest s

/-- The stretches of bytes that a payload is written in. -/
def framed (table payload : String) : List (List UInt8) :=
  [Text.Utf8.encode ("-- " ++ table ++ "\n"), Text.Utf8.encode payload, Text.Utf8.encode "\n"]

/-- Writes a payload for a table. -/
def write (table payload : String) (s : Sink) : Except SinkError Unit × Sink :=
  s.writeAll (framed table payload)

end Sink

end TableFeed
