import TableFeed.Json.Printer
import TableFeed.Json.Reader

/-!
# Documents

A document is what this library writes: JSON whose records keep the order in
which their members are given, with exact decimal numbers among the values.
`Document.text` is its compact text.  `Document.toJson` is the value tree that a
reader of the text gets, its members sorted by key.
-/

namespace TableFeed

/-- An ordered JSON text as a tree. -/
inductive Document where
  /-- A value as it came. -/
  | value (v : Json)
  /-- A number given by its text. -/
  | decimal (digits : List Char)
  /-- Items in order. -/
  | list (items : List Document)
  /-- Members in order. -/
  | record (members : List (String × Document))
deriving Inhabited

namespace Document

/-- A string. -/
def string (text : String) : Document :=
  .value (.string text)

/-- A truth value. -/
def bool (b : Bool) : Document :=
  .value (.bool b)

/-- Null. -/
def null : Document :=
  .value .null

mutual

/-- The compact text of a document. -/
def chars : Document → List Char
  | .value v => v.chars
  | .decimal digits => digits
  | .list [] => ['[', ']']
  | .list (item :: rest) => '[' :: (item.chars ++ charsItems rest)
  | .record [] => ['\x7b', '\x7d']
  | .record ((key, member) :: rest) =>
    '\x7b' :: (stringChars key ++ ':' :: (member.chars ++ charsMembers rest))

/-- The items after the first, with the closing bracket. -/
def charsItems : List Document → List Char
  | [] => [']']
  | item :: rest => ',' :: (item.chars ++ charsItems rest)

/-- The members after the first, with the closing brace. -/
def charsMembers : List (String × Document) → List Char
  | [] => ['\x7d']
  | (key, member) :: rest =>
    ',' :: (stringChars key ++ ':' :: (member.chars ++ charsMembers rest))

end

/-- The compact text of a document. -/
def text (d : Document) : String :=
  String.ofList d.chars

/-- The value that the text of a number writes; null when it is not one. -/
def decimalValue (digits : List Char) : Json :=
  match Json.Reader.number? digits with
  | some (n, []) => .number n
  | _ => .null

mutual

/-- The value tree of a document, members sorted by key. -/
def toJson : Document → Json
  | .value v => v
  | .decimal digits => decimalValue digits
  | .list items => .array (toJsonItems items)
  | .record members => .object (Entries.sorted (toJsonMembers members))

/-- The value trees of items. -/
def toJsonItems : List Document → List Json
  | [] => []
  | item :: rest => item.toJson :: toJsonItems rest

/-- The value trees of members, in order. -/
def toJsonMembers : List (String × Document) → List (String × Json)
  | [] => []
  | (key, member) :: rest => (key, member.toJson) :: toJsonMembers rest

end

end Document

end TableFeed
