import TableFeed.Text.Unprintable

/-!
# Quoted text in messages

A message that names a text from the input writes it between double quotes, so
that its ends and its invisible characters can be seen.  Quotes and backslashes
are escaped, four controls have letters, and every other character without a
printed form is written by its code point in braces.
-/

namespace TableFeed.Text

/-- The written form of one character inside a quoted text. -/
def quoteChar (c : Char) : List Char :=
  match c with
  | '"' => ['\\', '"']
  | '\\' => ['\\', '\\']
  | '\n' => ['\\', 'n']
  | '\r' => ['\\', 'r']
  | '\t' => ['\\', 't']
  | '\x00' => ['\\', '0']
  | c =>
    if isPrintable c then [c]
    else ['\\', 'u', '\x7b'] ++ Nat.toDigits 16 c.toNat ++ ['\x7d']

/-- A text between double quotes with its invisible characters escaped. -/
def quoted (text : String) : String :=
  String.ofList ('"' :: (text.toList.flatMap quoteChar ++ ['"']))

end TableFeed.Text
