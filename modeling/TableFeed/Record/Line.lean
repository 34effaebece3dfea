import TableFeed.Json.Reader
import TableFeed.Json.Record
import TableFeed.Record.Basic

/-!
# Input lines

A line of input holds one record: its topic, and if it likes its partition, offset,
key and value.  A line without a value is a tombstone.

A line is read straight from its text, an object by the names of its members or an
array by their order.  No known member may come twice.  Members with other names are
passed over without a look at what they mean.
-/

namespace TableFeed

/-- A record as a line gives it. -/
structure Line where
  /-- The topic. -/
  topic : String
  /-- The partition, zero when it is not given. -/
  partition : Int32
  /-- The offset, zero when it is not given. -/
  offset : Int64
  /-- The key, if there is one. -/
  key : Option Json
  /-- The value, null when it is not given. -/
  value : Json

namespace Line

/-- The members of a line in the order of the array form. -/
def memberNames : List String :=
  ["topic", "partition", "offset", "key", "value"]

/-- A whole number of 64 bits. -/
def int64? : Json → Option Int64
  | .number n => n.int64?.map Int64.ofInt
  | _ => none

/-- A whole number of 32 bits. -/
def int32? : Json → Option Int32
  | .number n => Schema.int32? n
  | _ => none

/-- The line with its members. -/
def ofMembers? (members : List (String × Json)) : Option Line := do
  let topic ← Json.member? Json.asText? members "topic"
  let partition ← Json.memberOr? 0 int32? members "partition"
  let offset ← Json.memberOr? 0 int64? members "offset"
  return ⟨topic, partition, offset, Json.present? (members.lookup "key"),
    Json.orNull (members.lookup "value")⟩

/-- Whether a member may be a value of any kind. -/
def isFree (name : String) : Bool :=
  name = "key" || name = "value"

/-- The members of a line, those of any kind read again. -/
def resolveFree? (members : List (String × Json)) : Option (List (String × Json)) :=
  members.mapM fun member =>
    if isFree member.1 then member.2.resolve?.map fun value => (member.1, value) else some member

/-- The line that a value describes. -/
def ofJson? (value : Json) : Option Line :=
  (value.record? memberNames).bind fun members => (resolveFree? members).bind ofMembers?

/-! ## From text -/

open Json.Reader

/-- The value of a member.  An object can stand only where any value may, whatever it stands for. -/
def memberValue? (name : String) (cs : List Char) : Option (Json × List Char) :=
  if !isFree name ∧ (toToken cs).head? = some '\x7b' then none else nested? 1 cs

/-- One member of an object, kept when its name is known. -/
def textMember? (cs : List Char) : Option (List (String × Json) × List Char) := do
  let (key, rest) ← key? cs
  if memberNames.contains key then
    let (value, rest) ← memberValue? key rest
    return ([(key, value)], rest)
  else
    let rest ← skip? (fuelFor rest) rest
    return ([], rest)

/-- The known members of an object from after its opening brace on, at least one member. -/
def members? (fuel : Nat) (cs : List Char) : Option (List (String × Json) × List Char) :=
  match fuel with
  | 0 => none
  | fuel + 1 => do
    let (known, rest) ← textMember? cs
    match toToken rest with
    | '\x7d' :: rest => return (known, rest)
    | ',' :: rest =>
      let (others, rest) ← members? fuel rest
      return (known ++ others, rest)
    | _ => none

/-- The items of an array from after its opening bracket on, at least one and at most as many as
there are names. -/
def places? (names : List String) (cs : List Char) : Option (List (String × Json) × List Char) :=
  match names with
  | [] => none
  | name :: names => do
    let (value, rest) ← memberValue? name cs
    match toToken rest with
    | ']' :: rest => return ([(name, value)], rest)
    | ',' :: rest =>
      let (others, rest) ← places? names rest
      return ((name, value) :: others, rest)
    | _ => none

/-- The known members of a text. -/
def textMembers? (text : String) : Option (List (String × Json) × List Char) :=
  match toToken text.toList with
  | '\x7b' :: rest =>
    match toToken rest with
    | '\x7d' :: rest => some ([], rest)
    | rest => members? (rest.length + 1) rest
  | '[' :: rest => places? memberNames rest
  | _ => none

/-- The line of a text. -/
def ofText? (text : String) : Option Line := do
  let (members, rest) ← textMembers? text
  if atEnd rest ∧ (members.map Prod.fst).Nodup then ofMembers? members else none

/-- The record of a line. -/
def toRecord (line : Line) : Except SchemaError Record :=
  Record.ofJson line.topic line.partition line.offset line.key line.value

end Line

end TableFeed
