import TableFeed.Yaml.BlockScalar
import TableFeed.Yaml.FlowScalar
import TableFeed.Yaml.Tag

/-!
# Tokens of a YAML text

`Token.scan?` cuts a text into tokens.  Indentation becomes tokens of its own: a
block opens where a line is indented deeper than the one that holds it, and closes
where a line is indented less.  What a mapping key is can be known only once the
colon after it is met, so a place where a key may have begun is remembered, and the
token that opens the key is put in there afterwards.

Tags are told by their meaning and anchors by their number.  An anchor's number is how
many names are known when it is met, so a name that is used again takes a number that
the next new name may take too; `Tree` says which node a number means then.

A fault gives no tokens.
-/

namespace TableFeed.Yaml

/-- A token. -/
inductive Token where
  /-- A directive that tells the version. -/
  | version
  /-- A directive that tells what a handle stands for. -/
  | handle
  | documentStart
  | documentEnd
  | sequenceStart
  | mappingStart
  | blockEnd
  | flowSequenceStart
  | flowSequenceEnd
  | flowMappingStart
  | flowMappingEnd
  /-- The dash before an item of a block sequence. -/
  | entry
  /-- The comma of a flow collection. -/
  | flowEntry
  | key
  | value
  | anchor (number : Nat)
  | reference (number : Nat)
  | tag (tag : Tag)
  | scalar (isPlain : Bool) (text : String)
deriving DecidableEq, Repr

/-! ## The scanner -/

/-- A place where a mapping key may have begun. -/
structure KeyMark where
  /-- Whether a key must have begun there. -/
  required : Bool
  /-- The number of tokens before it. -/
  before : Nat
  /-- The line. -/
  line : Nat
  /-- The column. -/
  column : Nat
  /-- The bytes before it. -/
  index : Nat

/-- What the scanner knows. -/
structure Scanner where
  /-- The place in the text. -/
  cursor : Cursor
  /-- The column of the innermost block, one more than it; zero outside all blocks. -/
  indent : Nat
  /-- The columns of the blocks around it, in the same way. -/
  outer : List Nat
  /-- Whether a mapping key may begin here. -/
  keyAllowed : Bool
  /-- The possible key outside all flow collections, or of the innermost one. -/
  possible : Option KeyMark
  /-- The possible keys of the flow collections around, as many as there are collections. -/
  suspended : List (Option KeyMark)
  /-- What handles stand for that the text has told. -/
  handles : Handles
  /-- The last number of every name of an anchor. -/
  anchors : List (String × Nat)
  /-- How many tokens there are so far. -/
  count : Nat
  /-- The tokens so far, last first. -/
  tokens : List Token

namespace Scanner

/-- Before the first token. -/
def initial (cs : List Char) : Scanner :=
  ⟨.start cs, 0, [], true, none, [], [], [], 0, []⟩

/-- Whether the place is in a flow collection. -/
def inFlow (s : Scanner) : Bool :=
  !s.suspended.isEmpty

/-- With a token at the end. -/
def push (s : Scanner) (token : Token) : Scanner :=
  { s with count := s.count + 1, tokens := token :: s.tokens }

/-- With a token put in after the first `before` tokens. -/
def insert (before : Nat) (token : Token) (s : Scanner) : Scanner :=
  { s with count := s.count + 1, tokens := s.tokens.insertIdx (s.count - before) token }

/-- Moves to the next token, over blanks, comments, line ends and a byte order mark that begins a
line. -/
def toToken (fuel : Nat) (s : Scanner) : Scanner :=
  match fuel with
  | 0 => s
  | fuel + 1 =>
    match s.cursor.rest with
    | [] => s
    | c :: rest =>
      if c = ' ' ∨ (c = '\t' ∧ (s.inFlow ∨ !s.keyAllowed))
          ∨ (c = '\ufeff' ∧ s.cursor.column = 0) then
        toToken fuel { s with cursor := s.cursor.next }
      else if c = '#' then
        let comment := (rest.takeWhile fun c => !isBreak c).length + 1
        toToken fuel { s with cursor := s.cursor.skip comment }
      else if isBreak c then
        toToken fuel { s with
          cursor := s.cursor.lineEnd.2
          keyAllowed := if s.inFlow then s.keyAllowed else true }
      else s

/-- The possible key, unless its line is over or it is too long; a fault when it was required. -/
def freshKey? (cursor : Cursor) : Option KeyMark → Option (Option KeyMark)
  | none => some none
  | some mark =>
    if mark.line < cursor.line ∨ mark.index + 1024 < cursor.index then
      if mark.required then none else some none
    else some (some mark)

/-- Forgets the possible key when it can be none any more.  Those of the collections around are
looked at when the collections inside have ended. -/
def dropStale? (s : Scanner) : Option Scanner :=
  (freshKey? s.cursor s.possible).map fun possible => { s with possible := possible }

/-- Forgets the possible key; a fault when it was required. -/
def dropKey? (s : Scanner) : Option Scanner :=
  match s.possible with
  | some mark => if mark.required then none else some { s with possible := none }
  | none => some s

/-- Remembers this place as a possible key. -/
def saveKey? (s : Scanner) : Option Scanner :=
  if s.keyAllowed then do
    let required := !s.inFlow ∧ s.indent = s.cursor.column + 1
    let place := s.cursor
    let mark : KeyMark := ⟨required, s.count, place.line, place.column, place.index⟩
    return { ← s.dropKey? with possible := some mark }
  else some s

/-- Closes the blocks that are indented deeper than `column`, one more than it. -/
def unroll (column : Nat) (s : Scanner) : Scanner :=
  if s.inFlow then s else go s s.outer
where
  /-- Closes blocks while the innermost is too deep. -/
  go (s : Scanner) : List Nat → Scanner
    | [] => s
    | outer :: rest =>
      if column < s.indent then
        go { s.push .blockEnd with indent := outer, outer := rest } rest
      else s

/-- Opens a block at `column`, one more than it, when the innermost is less deep; its token comes
after `before` tokens. -/
def roll (column before : Nat) (token : Token) (s : Scanner) : Scanner :=
  if s.inFlow ∨ column ≤ s.indent then s
  else
    { s with indent := column, outer := s.indent :: s.outer }.insert before token

/-- A directive. -/
def directive? (s : Scanner) : Option Scanner := do
  let s ← (s.unroll 0).dropKey?
  let (directive, cursor) ← Yaml.directive? s.cursor
  let s := { s with keyAllowed := false, cursor := cursor }
  match directive with
  | .version => return s.push .version
  | .handle name octets =>
    if (s.handles.lookup name).isSome then none
    else return { s with handles := (name, octets) :: s.handles }.push .handle

/-- A document mark. -/
def documentMark? (token : Token) (s : Scanner) : Option Scanner := do
  let s ← (s.unroll 0).dropKey?
  return { s with keyAllowed := false, cursor := s.cursor.skip 3 }.push token

/-- The opening of a flow collection. -/
def flowStart? (token : Token) (s : Scanner) : Option Scanner := do
  let s ← s.saveKey?
  return { s with
    suspended := s.possible :: s.suspended
    possible := none
    keyAllowed := true
    cursor := s.cursor.next }.push token

/-- The closing of a flow collection. -/
def flowEnd? (token : Token) (s : Scanner) : Option Scanner := do
  let s ← s.dropKey?
  return { s with
    possible := s.suspended.headD none
    suspended := s.suspended.tail
    keyAllowed := false
    cursor := s.cursor.next }.push token

/-- The comma of a flow collection. -/
def flowEntry? (s : Scanner) : Option Scanner := do
  let s ← s.dropKey?
  return { s with keyAllowed := true, cursor := s.cursor.next }.push .flowEntry

/-- The dash of a block sequence. -/
def entry? (s : Scanner) : Option Scanner := do
  if !s.inFlow ∧ !s.keyAllowed then none
  else
    let s ← (s.roll (s.cursor.column + 1) s.count .sequenceStart).dropKey?
    return { s with keyAllowed := true, cursor := s.cursor.next }.push .entry

/-- The question mark of a mapping key. -/
def explicitKey? (s : Scanner) : Option Scanner := do
  if !s.inFlow ∧ !s.keyAllowed then none
  else
    let s ← (s.roll (s.cursor.column + 1) s.count .mappingStart).dropKey?
    return { s with keyAllowed := !s.inFlow, cursor := s.cursor.next }.push .key

/-- The colon before a mapping value. -/
def value? (s : Scanner) : Option Scanner :=
  match s.possible with
  | some mark =>
    let s := (s.insert mark.before .key).roll (mark.column + 1) mark.before .mappingStart
    some ({ s with possible := none, keyAllowed := false, cursor := s.cursor.next }.push .value)
  | none =>
    if !s.inFlow ∧ !s.keyAllowed then none
    else
      let s := s.roll (s.cursor.column + 1) s.count .mappingStart
      some ({ s with keyAllowed := !s.inFlow, cursor := s.cursor.next }.push .value)

/-- The characters that may stand right behind the name of an anchor. -/
def nameEnds : List Char :=
  ['?', ':', ',', ']', '\x7d', '%', '@', '\x60']

/-- The name at an ampersand or an asterisk, and the place after it. -/
def anchorName? (c : Cursor) : Option (String × Cursor) :=
  let name := (c.rest.drop 1).takeWhile isWordChar
  let c := c.next.skip name.length
  if name ≠ [] ∧ (atGap c.rest ∨ c.rest.head?.any nameEnds.contains) then
    some (String.ofList name, c)
  else none

/-- An anchor. -/
def anchor? (s : Scanner) : Option Scanner := do
  let s ← s.saveKey?
  let (name, cursor) ← anchorName? s.cursor
  let number := s.anchors.length
  let others := s.anchors.filter fun anchor => anchor.1 ≠ name
  return { s with
    keyAllowed := false
    cursor := cursor
    anchors := (name, number) :: others }.push (.anchor number)

/-- A reference to an anchor that was met. -/
def reference? (s : Scanner) : Option Scanner := do
  let s ← s.saveKey?
  let (name, cursor) ← anchorName? s.cursor
  let number ← s.anchors.lookup name
  return { s with keyAllowed := false, cursor := cursor }.push (.reference number)

/-- A tag. -/
def tag? (s : Scanner) : Option Scanner := do
  let s ← s.saveKey?
  let (tag, rest) ← Yaml.tag? (s.handles ++ Handles.initial) s.cursor.rest
  if atGap rest ∨ (s.inFlow ∧ rest.head? = some ',') then
    let cursor := s.cursor.skip (s.cursor.rest.length - rest.length)
    return { s with keyAllowed := false, cursor := cursor }.push (.tag tag)
  else none

/-- A block scalar. -/
def blockScalar? (isFolded : Bool) (s : Scanner) : Option Scanner := do
  let s ← s.dropKey?
  let (text, cursor) ← Yaml.blockScalar? isFolded s.indent s.cursor
  return { s with keyAllowed := true, cursor := cursor }.push (.scalar false text)

/-- A quoted scalar. -/
def quotedScalar? (quote : Char) (s : Scanner) : Option Scanner := do
  let s ← s.saveKey?
  let (text, cursor) ← quoted? quote (s.cursor.rest.length + 1) [] s.cursor.next
  return { s with keyAllowed := false, cursor := cursor }.push (.scalar false text)

/-- A plain scalar. -/
def plainScalar? (s : Scanner) : Option Scanner := do
  let s ← s.saveKey?
  let (text, broken, cursor) ←
    plain? s.inFlow s.indent (s.cursor.rest.length + 1) [] .empty s.cursor
  return { s with keyAllowed := broken, cursor := cursor }.push (.scalar true text)

/-- The characters that no plain scalar begins with. -/
def isIndicator (c : Char) : Bool :=
  isFlowIndicator c || c = '-' || c = '?' || c = ':' || c = '#' || c = '&' || c = '*' || c = '!'
    || c = '|' || c = '>' || c = '\x27' || c = '"' || c = '%' || c = '@' || c = '\x60'

/-- Whether a plain scalar begins with `c` before `rest`. -/
def startsPlain (inFlow : Bool) (c : Char) (rest : List Char) : Bool :=
  (!isIndicator c && !isBlank c && !isBreak c) || (c = '-' && !rest.head?.any isBlank)
    || (!inFlow && (c = '?' || c = ':') && !atGap rest)

/-- One token at a place that is not the end. -/
def step? (c : Char) (rest : List Char) (s : Scanner) : Option Scanner :=
  if s.cursor.column = 0 ∧ c = '%' then s.directive?
  else if s.cursor.column = 0 ∧ atDocumentMark '-' (c :: rest) then s.documentMark? .documentStart
  else if s.cursor.column = 0 ∧ atDocumentMark '.' (c :: rest) then s.documentMark? .documentEnd
  else if c = '[' then s.flowStart? .flowSequenceStart
  else if c = '\x7b' then s.flowStart? .flowMappingStart
  else if c = ']' then s.flowEnd? .flowSequenceEnd
  else if c = '\x7d' then s.flowEnd? .flowMappingEnd
  else if c = ',' then s.flowEntry?
  else if c = '-' ∧ atGap rest then s.entry?
  else if c = '?' ∧ (s.inFlow ∨ atGap rest) then s.explicitKey?
  else if c = ':' ∧ (s.inFlow ∨ atGap rest) then s.value?
  else if c = '*' then s.reference?
  else if c = '&' then s.anchor?
  else if c = '!' then s.tag?
  else if (c = '|' ∨ c = '>') ∧ !s.inFlow then s.blockScalar? (c = '>')
  else if c = '\x27' ∨ c = '"' then s.quotedScalar? c
  else if startsPlain s.inFlow c rest then s.plainScalar?
  else none

/-- The tokens from here to the end.  Every step takes at least one character. -/
def run? (fuel : Nat) (s : Scanner) : Option (List Token) :=
  match fuel with
  | 0 => none
  | fuel + 1 => do
    let s ← (s.toToken (s.cursor.rest.length + 1)).dropStale?
    match s.cursor.rest with
    | [] =>
      let s ← (s.unroll 0).dropKey?
      return s.tokens.reverse
    | c :: rest =>
      let s ← (s.unroll (s.cursor.column + 1)).step? c rest
      s.run? fuel

end Scanner

/-- The tokens of a text. -/
def Token.scan? (text : String) : Option (List Token) :=
  let cs := text.toList
  if cs.all isAllowed then (Scanner.initial cs).run? (cs.length + 2) else none

end TableFeed.Yaml
