import TableFeed.Yaml.Cursor

/-!
# Scalars in block style

A literal scalar keeps its lines as they are; a folded one joins them by spaces,
except around lines that begin with a blank.  The lines are indented, by as much as
the header says or else by as much as the first of them.  The header also says what
becomes of the line ends behind the last line.
-/

namespace TableFeed.Yaml

/-- What becomes of the line ends behind the last line. -/
inductive Chomping where
  /-- All are dropped. -/
  | strip
  /-- The first is kept. -/
  | clip
  /-- All are kept. -/
  | keep
deriving DecidableEq, Repr

/-- What a header says. -/
structure BlockHeader where
  /-- What becomes of the line ends behind the last line. -/
  chomping : Chomping
  /-- How much deeper than the block around them the lines are; zero when it is not said. -/
  depth : Nat

namespace BlockHeader

/-- A sign for chomping. -/
def chomping? (c : Char) : Option Chomping :=
  if c = '+' then some .keep else if c = '-' then some .strip else none

/-- A digit for the depth. -/
def depth? (c : Char) : Option Nat :=
  if c.isDigit then some (c.toNat - '0'.toNat) else none

/-- A header from after its first character on; a depth of zero may not be written. -/
def read? (c : Cursor) : Option (BlockHeader × Cursor) :=
  let first := c.rest.head?
  let second := (c.rest.drop 1).head?
  match first.bind chomping?, first.bind depth? with
  | some chomping, _ =>
    match second.bind depth? with
    | some 0 => none
    | some depth => some (⟨chomping, depth⟩, c.skip 2)
    | none => some (⟨chomping, 0⟩, c.next)
  | none, some 0 => none
  | none, some depth =>
    match second.bind chomping? with
    | some chomping => some (⟨chomping, depth⟩, c.skip 2)
    | none => some (⟨.clip, depth⟩, c.next)
  | none, none => some (⟨.clip, 0⟩, c)

end BlockHeader

/-- The empty lines before the next line that is not, with the deepest column met.  A zero `indent`
is not known yet.  A tab may not stand where a line is still indented. -/
def emptyLines? (indent fuel : Nat) (ends : List Char) (deepest : Nat) (c : Cursor) :
    Option (List Char × Nat × Cursor) :=
  match fuel with
  | 0 => none
  | fuel + 1 =>
    let blanks := (c.rest.takeWhile (· = ' ')).length
    let c := c.skip (if indent = 0 then blanks else min blanks (indent - c.column))
    let deepest := max deepest c.column
    if (indent = 0 ∨ c.column < indent) ∧ c.rest.head? = some '\t' then none
    else if c.rest.head?.any isBreak then
      let (lineEnd, c) := c.lineEnd
      emptyLines? indent fuel (ends ++ lineEnd) deepest c
    else some (ends, deepest, c)

/-- A block scalar of which the lines so far are read. -/
structure BlockText where
  /-- The characters so far, last first. -/
  done : List Char
  /-- The end of the last line. -/
  lineEnd : List Char
  /-- The ends of the empty lines after it. -/
  emptyEnds : List Char
  /-- Whether the last line begins with a blank. -/
  isBlankLine : Bool

namespace BlockText

/-- What stands for the end of the last line when the next begins with a blank or not. -/
def joint (isFolded nextIsBlank : Bool) (b : BlockText) : List Char :=
  if isFolded ∧ b.lineEnd.head? = some '\n' ∧ !b.isBlankLine ∧ !nextIsBlank then
    if b.emptyEnds = [] then [' '] else []
  else b.lineEnd

/-- The lines from here on that are indented to `indent`. -/
def lines? (isFolded : Bool) (indent fuel : Nat) (b : BlockText) (c : Cursor) :
    Option (BlockText × Cursor) :=
  match fuel with
  | 0 => none
  | fuel + 1 =>
    if c.column = indent ∧ c.rest ≠ [] then
      let isBlankLine := c.rest.head?.any isBlank
      let line := c.rest.takeWhile fun char => !isBreak char
      let done := (b.joint isFolded isBlankLine ++ b.emptyEnds ++ line).reverse ++ b.done
      let (lineEnd, c) := (c.skip line.length).lineEnd
      match emptyLines? indent (c.rest.length + 1) [] 0 c with
      | some (emptyEnds, _, c) =>
        lines? isFolded indent fuel ⟨done, lineEnd, emptyEnds, isBlankLine⟩ c
      | none => none
    else some (b, c)

/-- The whole text. -/
def finish (chomping : Chomping) (b : BlockText) : String :=
  let text := b.done.reverse
  match chomping with
  | .strip => String.ofList text
  | .clip => String.ofList (text ++ b.lineEnd)
  | .keep => String.ofList (text ++ b.lineEnd ++ b.emptyEnds)

end BlockText

/-- A block scalar; `indent` is one more than the column of the block around it. -/
def blockScalar? (isFolded : Bool) (indent : Nat) (c : Cursor) : Option (String × Cursor) := do
  let (header, c) ← BlockHeader.read? c.next
  let c := (← c.afterBlanks?).lineEnd.2
  let given := if header.depth = 0 then 0 else indent - 1 + header.depth
  let (emptyEnds, deepest, c) ← emptyLines? given (c.rest.length + 1) [] 0 c
  let indent := if given = 0 then max deepest (max indent 1) else given
  let (text, c) ← BlockText.lines? isFolded indent (c.rest.length + 1) ⟨[], [], emptyEnds, false⟩ c
  return (text.finish header.chomping, c)

end TableFeed.Yaml
