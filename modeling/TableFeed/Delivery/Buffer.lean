import TableFeed.Text.Pieces

/-!
# Row buffers

A buffer collects payloads for one table until they are taken out as one, with the
separator between neighbours.  It keeps count of the bytes that taking out would give.
-/

namespace TableFeed

/-- Payloads that wait to be delivered to one table. -/
structure Buffer where
  /-- The table. -/
  table : String
  /-- The text between two payloads. -/
  separator : String
  /-- The payloads, oldest first. -/
  rows : List String
  /-- The bytes of all payloads with separators between them. -/
  size : Nat
deriving DecidableEq, Repr

namespace Buffer

/-- A buffer without payloads. -/
def empty (table separator : String) : Buffer :=
  ⟨table, separator, [], 0⟩

/-- Whether there is no payload. -/
def isEmpty (b : Buffer) : Bool :=
  b.rows.isEmpty

/-- The buffer with one more payload. -/
def push (b : Buffer) (row : String) : Buffer :=
  { b with
    rows := b.rows ++ [row]
    size := b.size + (if b.isEmpty then 0 else b.separator.utf8ByteSize) + row.utf8ByteSize }

/-- All payloads as one, and the buffer without them; none when there is no payload. -/
def drain (b : Buffer) : Option String × Buffer :=
  if b.isEmpty then (none, b)
  else (some (Text.join b.separator b.rows), { b with rows := [], size := 0 })

end Buffer

end TableFeed
