import TableFeed.Proofs.Table.Statement
import TableFeed.Proofs.ValueType.ColumnType

/-!
# Reading whole statements

How the destination reads the rest of a statement that adds a column.  After the names comes
the type, a word that ends where its characters do, and then either nothing or the comment, a
literal that ends at the first single quote without a backslash before it.  What a backslash
makes of the character after it is left open (`Escapes`), save that backslashes and single
quotes stand for themselves.

Nothing in a name or a comment can end it early, and the type of a column has neither blanks
nor quotes.  So a statement for a column of a built-in type is read to its end, and says what it
was made of (`read?_addColumn`).  Two statements are the same text only when they were made of
the same, where an empty comment is none.
-/

namespace TableFeed.Statement

/-! ## Literals -/

/-- The single quote. -/
def quote : Char := '\x27'

/-- What the characters after a backslash stand for. -/
structure Escapes where
  /-- The text that a backslash and the character stand for. -/
  meaning : Char → List Char
  /-- A backslash stands for itself. -/
  backslash : meaning '\\' = ['\\']
  /-- A single quote stands for itself. -/
  quote : meaning quote = [Statement.quote]

/-- A backslash takes the meaning from every character. -/
def Escapes.literal : Escapes :=
  ⟨fun c => [c], rfl, rfl⟩

/-- What follows an opening quote up to the closing one, and what comes after that. -/
def closeLiteral? (escapes : Escapes) : List Char → Option (List Char × List Char)
  | [] => none
  | [c] => if c = quote then some ([], []) else none
  | c :: next :: rest =>
    if c = quote then some ([], next :: rest)
    else if c = '\\' then
      (closeLiteral? escapes rest).map fun (text, rest) => (escapes.meaning next ++ text, rest)
    else (closeLiteral? escapes (next :: rest)).map fun (text, rest) => (c :: text, rest)

/-- The literal at the start of the characters, and what comes after it. -/
def literal? (escapes : Escapes) : List Char → Option (String × List Char)
  | [] => none
  | c :: rest =>
    if c = quote then
      (closeLiteral? escapes rest).map fun (text, rest) => (.ofList text, rest)
    else none

/-- The written form of one character of a comment. -/
def literalChar (c : Char) : List Char :=
  if c = '\\' ∨ c = quote then ['\\', c] else [c]

/-- Escaping the backslashes and then the quotes of a text escapes each character once: the
second pass adds backslashes that the first does not see. -/
theorem replaceChar_replaceChar (text : List Char) :
    Text.replaceChar quote ['\\', quote] (Text.replaceChar '\\' ['\\', '\\'] text) =
      text.flatMap literalChar := by
  have hne : '\\' ≠ quote := by decide
  induction text with
  | nil => rfl
  | cons c text ih =>
    simp only [Text.replaceChar, List.flatMap_cons, List.flatMap_append] at ih ⊢
    rw [ih]
    congr 1
    by_cases hslash : c = '\\'
    · simp [literalChar, hslash, hne]
    · by_cases hquote : c = quote
      · subst hquote
        rfl
      · simp [literalChar, hslash, hquote]

theorem literalChars_eq (comment : String) :
    literalChars comment = quote :: (comment.toList.flatMap literalChar ++ [quote]) :=
  congrArg (fun escaped => quote :: (escaped ++ [quote])) (replaceChar_replaceChar comment.toList)

variable {escapes : Escapes}

theorem closeLiteral?_end (rest : List Char) :
    closeLiteral? escapes (quote :: rest) = some ([], rest) := by
  cases rest with
  | nil => rfl
  | cons next rest => simp [closeLiteral?]

theorem closeLiteral?_cons {c : Char} {rest : List Char} (hquote : c ≠ quote) (hslash : c ≠ '\\')
    (hrest : rest ≠ []) : closeLiteral? escapes (c :: rest) =
      (closeLiteral? escapes rest).map fun (text, rest) => (c :: text, rest) := by
  cases rest with
  | nil => exact absurd rfl hrest
  | cons next rest => simp [closeLiteral?, hquote, hslash]

theorem closeLiteral?_escape {c : Char} (hc : escapes.meaning c = [c]) (rest : List Char) :
    closeLiteral? escapes ('\\' :: c :: rest) =
      (closeLiteral? escapes rest).map fun (text, rest) => (c :: text, rest) := by
  have hslash : '\\' ≠ quote := by decide
  simp [closeLiteral?, hslash, hc]

theorem closeLiteral?_flatMap (text rest : List Char) :
    closeLiteral? escapes (text.flatMap literalChar ++ quote :: rest) = some (text, rest) := by
  induction text with
  | nil => exact closeLiteral?_end rest
  | cons c text ih =>
    rw [List.flatMap_cons, List.append_assoc, literalChar]
    split
    · next hspecial =>
      have hmeaning : escapes.meaning c = [c] := by
        rcases hspecial with rfl | rfl
        · exact escapes.backslash
        · exact escapes.quote
      rw [List.cons_append, List.singleton_append, closeLiteral?_escape hmeaning, ih]
      rfl
    · next hplain =>
      obtain ⟨hslash, hquote⟩ := not_or.1 hplain
      rw [List.singleton_append, closeLiteral?_cons hquote hslash (by simp), ih]
      rfl

/-- A comment is read as it was written. -/
theorem literal?_literalChars (comment : String) (rest : List Char) :
    literal? escapes (literalChars comment ++ rest) = some (comment, rest) := by
  rw [literalChars_eq, List.cons_append, List.append_assoc,
    List.singleton_append, literal?, if_pos rfl, closeLiteral?_flatMap, Option.map_some]
  simp only [String.ofList_toList]

/-! ## Types -/

/-- The column type at the start of the characters, and what comes after it. -/
def typeName? (cs : List Char) : Option (String × List Char) :=
  let word := cs.takeWhile isTypeChar
  if word = [] then none else some (.ofList word, cs.dropWhile isTypeChar)

theorem typeName?_append {typeName : String} (h : IsTypeWord typeName) {rest : List Char}
    (hrest : rest.head?.all fun c => !isTypeChar c) :
    typeName? (typeName.toList ++ rest) = some (typeName, rest) := by
  have hall : ∀ c ∈ typeName.toList, isTypeChar c = true := List.all_eq_true.1 h.2
  have hne : typeName.toList ≠ [] := fun hnil => h.1 (String.toList_eq_nil_iff.1 hnil)
  have hword : rest.takeWhile isTypeChar = [] ∧ rest.dropWhile isTypeChar = rest := by
    cases rest with
    | nil => exact ⟨rfl, rfl⟩
    | cons c rest =>
      have hc : isTypeChar c = false := by simpa using hrest
      simp [hc]
  rw [typeName?, List.takeWhile_append_of_pos hall, List.dropWhile_append_of_pos hall, hword.1,
    hword.2, List.append_nil, if_neg hne, String.ofList_toList]

/-! ## Statements -/

/-- The comment that a statement ends with, none when it ends before one. -/
def commentClause? (escapes : Escapes) : List Char → Option (Option String × List Char)
  | [] => some (none, [])
  | c :: rest => do
    let (comment, rest) ← (expect? " COMMENT ".toList (c :: rest)).bind (literal? escapes)
    return (some comment, rest)

/-- The database, the table and the new column of a statement that adds a column; none for a text
that is not one such statement from its start to its end. -/
def read? (escapes : Escapes) (statement : String) : Option (String × String × NewColumn) := do
  let (database, rest) ← (expect? "ALTER TABLE ".toList statement.toList).bind identifier?
  let (table, rest) ← (expect? ['.'] rest).bind identifier?
  let (name, rest) ← (expect? " ADD COLUMN ".toList rest).bind identifier?
  let (typeName, rest) ← (expect? [' '] rest).bind typeName?
  let (comment, rest) ← commentClause? escapes rest
  if rest.isEmpty then some (database, table, ⟨name, typeName, comment⟩) else none

/-- The column with an empty comment taken for none. -/
def normal (column : NewColumn) : NewColumn :=
  { column with comment := column.comment.filter (· ≠ "") }

theorem commentClause?_commentChars (comment : Option String) :
    commentClause? escapes (commentChars comment) = some (comment.filter (· ≠ ""), []) := by
  cases comment with
  | none => rfl
  | some text =>
    by_cases hempty : text = ""
    · subst hempty
      rfl
    · have hread : (expect? " COMMENT ".toList (" COMMENT ".toList ++ literalChars text)).bind
          (literal? escapes) = some (text, []) := by
        rw [expect?_append, Option.bind_some, ← List.append_nil (literalChars text),
          literal?_literalChars]
      rw [commentChars, if_neg hempty]
      change ((expect? " COMMENT ".toList (" COMMENT ".toList ++ literalChars text)).bind
        (literal? escapes) >>= _) = _
      rw [hread]
      simp [Option.filter, hempty]

theorem commentChars_filter (comment : Option String) :
    commentChars (comment.filter (· ≠ "")) = commentChars comment := by
  cases comment with
  | none => rfl
  | some text =>
    by_cases hempty : text = ""
    · subst hempty
      rfl
    · simp [Option.filter, hempty]

theorem head?_commentChars (comment : Option String) :
    (commentChars comment).head?.all (fun c => !isTypeChar c) = true := by
  cases comment with
  | none => rfl
  | some text =>
    have hblank : (" COMMENT ".toList ++ literalChars text).head? = some ' ' := rfl
    rw [commentChars]
    split
    · rfl
    · rw [hblank]
      decide

theorem addColumn_normal (database table : String) (column : NewColumn) :
    addColumn database table (normal column) = addColumn database table column := by
  have hcomment : commentChars (normal column).comment = commentChars column.comment :=
    commentChars_filter column.comment
  have hname : (normal column).name = column.name := rfl
  have htype : (normal column).typeName = column.typeName := rfl
  unfold addColumn addColumnChars
  rw [hname, htype, hcomment]

theorem columnClause_eq (column : NewColumn) :
    columnClause column = " ADD COLUMN ".toList ++ (identifierChars column.name ++
      ([' '] ++ (column.typeName.toList ++ commentChars column.comment))) := by
  unfold columnClause
  generalize " ADD COLUMN ".toList = clause
  simp only [List.cons_append, List.nil_append]

/-- Every statement for a column whose type is a word is read to its end. -/
theorem read?_of_isTypeWord (escapes : Escapes) (database table : String) {column : NewColumn}
    (h : IsTypeWord column.typeName) :
    read? escapes (addColumn database table column) = some (database, table, normal column) := by
  have hblank : (columnClause column).head? ≠ some backquote := by
    have hhead : (columnClause column).head? = some ' ' := rfl
    rw [hhead]
    decide
  have hdot : (['.'] ++ (identifierChars table ++ columnClause column)).head? ≠
      some backquote := by
    rw [List.singleton_append, List.head?_cons]
    decide
  have hspace : ([' '] ++ (column.typeName.toList ++ commentChars column.comment)).head? ≠
      some backquote := by
    rw [List.singleton_append, List.head?_cons]
    decide
  simp only [read?, toList_addColumn, expect?_append, Option.bind_eq_bind, Option.bind_some,
    identifier?_identifierChars database hdot, identifier?_identifierChars table hblank]
  -- The clause is opened only here: what precedes it was read without a look at what is in it.
  rw [columnClause_eq]
  simp only [expect?_append, Option.bind_some, identifier?_identifierChars column.name hspace,
    typeName?_append h (head?_commentChars column.comment), commentClause?_commentChars]
  rfl

/-- A text that a built-in type gives as the column type of some schema. -/
def IsBuiltinType (typeName : String) : Prop :=
  ∃ key type s, Registry.builtin.get? key = some type ∧ typeName = type.columnType s

theorem IsBuiltinType.isTypeWord {typeName : String} (h : IsBuiltinType typeName) :
    IsTypeWord typeName := by
  obtain ⟨key, type, s, hget, rfl⟩ := h
  exact ValueType.isTypeWord_columnType (Registry.mem_builtinTypes_of_get? hget) s

/-- A statement that adds a column of a built-in type is read to its end, as the database, the table
and the column it was made of.  So no other statement is the same text, save that an empty
comment is written as none. -/
theorem read?_addColumn (escapes : Escapes) (database table : String) (column : NewColumn)
    (h : IsBuiltinType column.typeName) :
    read? escapes (addColumn database table column) = some (database, table, normal column) ∧
    ∀ database' table' column', IsBuiltinType column'.typeName →
      (addColumn database table column = addColumn database' table' column' ↔
        database = database' ∧ table = table' ∧ normal column = normal column') := by
  have hread := read?_of_isTypeWord escapes database table h.isTypeWord
  refine ⟨hread, fun database' table' column' h' => ⟨fun heq => ?_, ?_⟩⟩
  · rw [heq, read?_of_isTypeWord escapes database' table' h'.isTypeWord] at hread
    have hparts := Option.some.inj hread
    rw [Prod.mk.injEq, Prod.mk.injEq] at hparts
    obtain ⟨hdatabase, htable, hcolumn⟩ := hparts
    exact ⟨hdatabase.symm, htable.symm, hcolumn.symm⟩
  · rintro ⟨rfl, rfl, hnormal⟩
    rw [← addColumn_normal, hnormal, addColumn_normal]

/-- A text schema whose parameter gives a length of five characters. -/
def fiveCharacters : Schema :=
  (Schema.ofKind .string).withParameter ValueType.sourceLengthParameter "5"

theorem read?_addColumn_quoted :
    IsBuiltinType "VARCHAR(15)" ∧
    read? .literal (addColumn "a`.`b" "t`" ⟨"c` INT", "VARCHAR(15)", some "it's \\"⟩) =
      some ("a`.`b", "t`", ⟨"c` INT", "VARCHAR(15)", some "it's \\"⟩) := by
  have htype : IsBuiltinType "VARCHAR(15)" :=
    ⟨"STRING", ValueType.string, fiveCharacters, by rfl, by decide +kernel⟩
  exact ⟨htype, (read?_addColumn .literal "a`.`b" "t`"
    ⟨"c` INT", "VARCHAR(15)", some "it's \\"⟩ htype).1⟩

end TableFeed.Statement
