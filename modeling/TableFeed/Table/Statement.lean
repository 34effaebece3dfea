import TableFeed.Table.Column
import TableFeed.Text.Pieces

/-!
# Statements

The text of the statement that adds a column.  Names stand between backquotes, with
a backquote in a name written twice.  A comment stands between single quotes, with
backslashes and single quotes escaped by a backslash; an empty comment is left out.
-/

namespace TableFeed.Statement

/-- The backquote. -/
def backquote : Char := '\x60'

/-- A name as an identifier. -/
def identifierChars (name : String) : List Char :=
  backquote :: (Text.replaceChar backquote [backquote, backquote] name.toList ++ [backquote])

/-- A comment as a literal.  The escapes of the quotes are backslashes too, so the backslashes of
the comment are escaped before them. -/
def literalChars (comment : String) : List Char :=
  let escaped := Text.replaceChar '\\' ['\\', '\\'] comment.toList
  '\x27' :: (Text.replaceChar '\x27' ['\\', '\x27'] escaped ++ ['\x27'])

/-- The clause that gives a column its comment. -/
def commentChars : Option String → List Char
  | none => []
  | some comment =>
    if comment = "" then [] else " COMMENT ".toList ++ literalChars comment

/-- The characters of the statement that adds a column to a table. -/
def addColumnChars (database table : String) (column : NewColumn) : List Char :=
  "ALTER TABLE ".toList ++ identifierChars database ++ '.' :: identifierChars table
    ++ " ADD COLUMN ".toList ++ identifierChars column.name ++ ' ' :: column.typeName.toList
    ++ commentChars column.comment

/-- The statement that adds a column to a table. -/
def addColumn (database table : String) (column : NewColumn) : String :=
  String.ofList (addColumnChars database table column)

end TableFeed.Statement
