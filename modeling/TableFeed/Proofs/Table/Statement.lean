import TableFeed.Table.Statement

/-!
# Reading statements

How the destination reads the names in a statement.  A name stands between backquotes and
ends at the first backquote that is not doubled; a doubled one stands for itself.  Whatever
characters a name has, it is read as it was written (`identifier?_identifierChars`).  So a
statement that adds a column tells the table that it changes (`target?_addColumn`), and
statements for different tables are never the same text.
-/

namespace TableFeed.Statement

/-! ## Names -/

/-- What follows an opening backquote up to the closing one, and what comes after that. -/
def closeIdentifier? : List Char → Option (List Char × List Char)
  | [] => none
  | [c] => if c = backquote then some ([], []) else none
  | c :: next :: rest =>
    if c = backquote then
      if next = backquote then
        (closeIdentifier? rest).map fun (name, rest) => (backquote :: name, rest)
      else some ([], next :: rest)
    else (closeIdentifier? (next :: rest)).map fun (name, rest) => (c :: name, rest)

/-- The name at the start of the characters, and what comes after it. -/
def identifier? : List Char → Option (String × List Char)
  | [] => none
  | c :: rest =>
    if c = backquote then (closeIdentifier? rest).map fun (name, rest) => (.ofList name, rest)
    else none

theorem closeIdentifier?_end {rest : List Char} (h : rest.head? ≠ some backquote) :
    closeIdentifier? (backquote :: rest) = some ([], rest) := by
  cases rest with
  | nil => rfl
  | cons next rest =>
    have hnext : next ≠ backquote := by simpa using h
    simp [closeIdentifier?, hnext]

theorem closeIdentifier?_cons {c : Char} {rest : List Char} (hc : c ≠ backquote)
    (hrest : rest ≠ []) :
    closeIdentifier? (c :: rest) =
      (closeIdentifier? rest).map fun (name, rest) => (c :: name, rest) := by
  cases rest with
  | nil => exact absurd rfl hrest
  | cons next rest => simp [closeIdentifier?, hc]

theorem closeIdentifier?_replaceChar (name : List Char) {rest : List Char}
    (h : rest.head? ≠ some backquote) :
    closeIdentifier? (Text.replaceChar backquote [backquote, backquote] name ++
      backquote :: rest) = some (name, rest) := by
  induction name with
  | nil => exact closeIdentifier?_end h
  | cons c name ih =>
    by_cases hc : c = backquote
    · subst hc
      simp only [Text.replaceChar, List.flatMap_cons, ↓reduceIte, List.cons_append,
        List.nil_append] at ih ⊢
      simp [closeIdentifier?, ih]
    · simp only [Text.replaceChar, List.flatMap_cons, if_neg hc, List.cons_append,
        List.nil_append] at ih ⊢
      rw [closeIdentifier?_cons hc (by simp), ih]
      rfl

/-- A name is read as it was written, provided that no backquote follows it. -/
theorem identifier?_identifierChars (name : String) {rest : List Char}
    (h : rest.head? ≠ some backquote) :
    identifier? (identifierChars name ++ rest) = some (name, rest) := by
  have hread := closeIdentifier?_replaceChar name.toList h
  simp only [identifierChars, List.cons_append, List.append_assoc, List.nil_append, identifier?,
    ↓reduceIte, hread]
  simp

/-! ## The table of a statement -/

/-- What comes after the expected characters. -/
def expect? : List Char → List Char → Option (List Char)
  | [], cs => some cs
  | _ :: _, [] => none
  | e :: expected, c :: cs => if c = e then expect? expected cs else none

@[simp] theorem expect?_append (expected rest : List Char) :
    expect? expected (expected ++ rest) = some rest := by
  induction expected with
  | nil => rfl
  | cons e expected ih => simp [expect?, ih]

/-- The database and the table that a statement alters. -/
def target? (statement : String) : Option (String × String) := do
  let (database, rest) ← (expect? "ALTER TABLE ".toList statement.toList).bind identifier?
  let (table, _) ← (expect? ['.'] rest).bind identifier?
  return (database, table)

/-- The clause of a statement that follows the table. -/
def columnClause (column : NewColumn) : List Char :=
  " ADD COLUMN ".toList ++ (identifierChars column.name ++
    (' ' :: column.typeName.toList ++ commentChars column.comment))

theorem toList_addColumn (database table : String) (column : NewColumn) :
    (addColumn database table column).toList = "ALTER TABLE ".toList ++
      (identifierChars database ++ (['.'] ++ (identifierChars table ++ columnClause column))) := by
  rw [addColumn, String.toList_ofList]
  unfold addColumnChars columnClause
  generalize "ALTER TABLE ".toList = opening
  generalize " ADD COLUMN ".toList = clause
  simp only [List.append_assoc, List.cons_append, List.nil_append]

@[simp] theorem target?_addColumn (database table : String) (column : NewColumn) :
    target? (addColumn database table column) = some (database, table) := by
  have htable : (columnClause column).head? ≠ some backquote := by
    have hblank : (columnClause column).head? = some ' ' := rfl
    rw [hblank]
    decide
  have hdatabase : (['.'] ++ (identifierChars table ++ columnClause column)).head? ≠
      some backquote := by
    rw [List.singleton_append, List.head?_cons]
    decide
  simp only [target?, toList_addColumn, expect?_append, Option.bind_eq_bind, Option.bind_some,
    identifier?_identifierChars database hdatabase, identifier?_identifierChars table htable]
  rfl

end TableFeed.Statement
