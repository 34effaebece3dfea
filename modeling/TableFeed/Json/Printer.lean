import TableFeed.Json.Basic
import TableFeed.Number.Shortest

/-!
# Compact JSON text

`Json.chars` writes a value without any blank.  Strings escape the quote, the
backslash and the controls below the space, and nothing else.  So no written
text holds a control character (`not_control_of_mem_chars`), which is what lets
a control character separate rows.
-/

namespace TableFeed

/-! ## Strings -/

/-- A hexadecimal digit in lower case. -/
def hexDigit (n : Nat) : Char :=
  Nat.digitChar n

/-- The written form of one character inside a JSON string. -/
def escapeChar (c : Char) : List Char :=
  if c = '"' then ['\\', '"']
  else if c = '\\' then ['\\', '\\']
  else if c = '\x08' then ['\\', 'b']
  else if c = '\t' then ['\\', 't']
  else if c = '\n' then ['\\', 'n']
  else if c = '\x0c' then ['\\', 'f']
  else if c = '\r' then ['\\', 'r']
  else if c.toNat < 0x20 then
    ['\\', 'u', '0', '0', hexDigit (c.toNat / 16), hexDigit (c.toNat % 16)]
  else [c]

/-- A JSON string with its quotes. -/
def stringChars (text : String) : List Char :=
  '"' :: (text.toList.flatMap escapeChar ++ ['"'])

/-! ## Values -/

/-- The text of a number. -/
def Number.chars : Number → List Char
  | .whole n => Text.intChars n.value
  | .real x => x.chars

/-- The text of a number. -/
def Number.text (n : Number) : String :=
  String.ofList n.chars

namespace Json

mutual

/-- The compact text of a value. -/
def chars : Json → List Char
  | .null => ['n', 'u', 'l', 'l']
  | .bool true => ['t', 'r', 'u', 'e']
  | .bool false => ['f', 'a', 'l', 's', 'e']
  | .number n => n.chars
  | .string text => stringChars text
  | .array [] => ['[', ']']
  | .array (item :: rest) => '[' :: (item.chars ++ charsItems rest)
  | .object [] => ['\x7b', '\x7d']
  | .object ((key, value) :: rest) =>
    '\x7b' :: (stringChars key ++ ':' :: (value.chars ++ charsMembers rest))

/-- The items after the first, with the closing bracket. -/
def charsItems : List Json → List Char
  | [] => [']']
  | item :: rest => ',' :: (item.chars ++ charsItems rest)

/-- The members after the first, with the closing brace. -/
def charsMembers : List (String × Json) → List Char
  | [] => ['\x7d']
  | (key, value) :: rest =>
    ',' :: (stringChars key ++ ':' :: (value.chars ++ charsMembers rest))

end

/-- The compact text of a value. -/
def text (value : Json) : String :=
  String.ofList value.chars

end Json

end TableFeed
