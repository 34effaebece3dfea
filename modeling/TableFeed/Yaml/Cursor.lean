/-!
# Places in a YAML text

A `Cursor` is a place in a text: what remains, and how far it is from the start.
Columns are counted in characters and indices in bytes.  A `Gap` is what stands
between two stretches of a scalar that goes on over blanks and line ends.
-/

namespace TableFeed.Yaml

/-! ## Characters -/

/-- Whether a character may stand in a text at all. -/
def isAllowed (c : Char) : Bool :=
  let n := c.toNat
  n = 0x09 || n = 0x0A || n = 0x0D || (0x20 ≤ n && n ≤ 0x7E) || n = 0x85
    || (0xA0 ≤ n && n ≤ 0xD7FF) || (0xE000 ≤ n && n ≤ 0xFFFD) || 0x10000 ≤ n

/-- Whether a character is a space or a tab. -/
def isBlank (c : Char) : Bool :=
  c = ' ' || c = '\t'

/-- Whether a character ends a line. -/
def isBreak (c : Char) : Bool :=
  c = '\n' || c = '\r' || c = '\u0085' || c = '\u2028' || c = '\u2029'

/-- Whether the front is a blank, the end of a line or the end of the text. -/
def atGap : List Char → Bool
  | [] => true
  | c :: _ => isBlank c || isBreak c

/-- Whether the front is a mark of a document: three times `mark`, standing alone. -/
def atDocumentMark (mark : Char) : List Char → Bool
  | a :: b :: c :: rest => a = mark && b = mark && c = mark && atGap rest
  | _ => false

/-- A place in a text. -/
structure Cursor where
  /-- What remains. -/
  rest : List Char
  /-- The lines before. -/
  line : Nat
  /-- The characters before on the line. -/
  column : Nat
  /-- The bytes before in the text. -/
  index : Nat

namespace Cursor

/-- Before the first character. -/
def start (cs : List Char) : Cursor :=
  ⟨cs, 0, 0, 0⟩

/-- After one character of a line. -/
def next (c : Cursor) : Cursor :=
  match c.rest with
  | [] => c
  | char :: rest => ⟨rest, c.line, c.column + 1, c.index + char.utf8Size⟩

/-- After several characters of a line. -/
def skip (c : Cursor) : Nat → Cursor
  | 0 => c
  | count + 1 => c.next.skip count

/-- After the characters of a line that `taken` accepts. -/
def skipWhile (taken : Char → Bool) (c : Cursor) : Cursor :=
  c.skip (c.rest.takeWhile taken).length

/-- At the end of the line, over blanks and a comment; none when anything else is there. -/
def afterBlanks? (c : Cursor) : Option Cursor :=
  let c := c.skipWhile isBlank
  let c := if c.rest.head? = some '#' then c.skipWhile fun char => !isBreak char else c
  if c.rest.head?.all isBreak then some c else none

/-- The end of a line as text and the place after it; nothing where no line ends. -/
def lineEnd (c : Cursor) : List Char × Cursor :=
  match c.rest with
  | '\r' :: '\n' :: rest => (['\n'], ⟨rest, c.line + 1, 0, c.index + 2⟩)
  | '\u2028' :: rest => (['\u2028'], ⟨rest, c.line + 1, 0, c.index + 3⟩)
  | '\u2029' :: rest => (['\u2029'], ⟨rest, c.line + 1, 0, c.index + 3⟩)
  | char :: rest =>
    if isBreak char then (['\n'], ⟨rest, c.line + 1, 0, c.index + char.utf8Size⟩) else ([], c)
  | [] => ([], c)

/-- Whether a document mark stands here. -/
def atDocument (c : Cursor) : Bool :=
  c.column = 0 && (atDocumentMark '-' c.rest || atDocumentMark '.' c.rest)

end Cursor

/-! ## Blanks inside scalars -/

/-- The blanks between two stretches of a scalar. -/
structure Gap where
  /-- The blanks before the first line end. -/
  blanks : List Char
  /-- Whether a line ended. -/
  broken : Bool
  /-- The first line end. -/
  first : List Char
  /-- The line ends after it. -/
  later : List Char

namespace Gap

/-- No blanks. -/
def empty : Gap := ⟨[], false, [], []⟩

/-- After an escaped line end. -/
def folded : Gap := ⟨[], true, [], []⟩

/-- What blanks stand for: one line end is a space, more are one fewer, and blanks beside a line
end are nothing. -/
def text (g : Gap) : List Char :=
  if g.broken then
    if g.first = ['\n'] then (if g.later = [] then [' '] else g.later)
    else g.first ++ g.later
  else g.blanks

/-- Takes blanks and line ends.  A tab may not stand where a line must still be indented to
`indent`. -/
def take? (indent : Nat) (fuel : Nat) (g : Gap) (c : Cursor) : Option (Gap × Cursor) :=
  match fuel with
  | 0 => some (g, c)
  | fuel + 1 =>
    match c.rest with
    | [] => some (g, c)
    | char :: _ =>
      if isBlank char then
        if g.broken then
          if char = '\t' ∧ c.column < indent then none else take? indent fuel g c.next
        else take? indent fuel { g with blanks := g.blanks ++ [char] } c.next
      else if isBreak char then
        let (lineEnd, c) := c.lineEnd
        if g.broken then take? indent fuel { g with later := g.later ++ lineEnd } c
        else take? indent fuel ⟨[], true, lineEnd, []⟩ c
      else some (g, c)

end Gap

end TableFeed.Yaml
