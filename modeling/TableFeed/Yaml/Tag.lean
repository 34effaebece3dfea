import TableFeed.Json.Reader
import TableFeed.Text.Utf8
import TableFeed.Yaml.Cursor

/-!
# Tags and directives

A tag says what a node is.  It is written in full between `!<` and `>`, or as a
handle with a suffix, and then what the handle stands for comes before the suffix.
Two handles are known from the start; `%TAG` lines say what others stand for.  A
`%YAML` line says which version a text is written in.

A tag that begins with an exclamation mark is the author's own.  Of all others only
those for nothing, truth values and numbers have a meaning here.
-/

namespace TableFeed.Yaml

/-- What a node is said to be. -/
inductive Tag where
  /-- Marked, without a name. -/
  | bare
  /-- Of the author's own; without a name when the octets of the name are no text. -/
  | own (name : Option String)
  | null
  | bool
  | int
  | float
  /-- Anything else. -/
  | other
deriving DecidableEq, Repr

namespace Tag

/-- The start of the tags that everyone knows. -/
def known : String :=
  "tag:yaml.org,2002:"

/-- The tag that octets write. -/
def ofOctets : List UInt8 → Tag
  | [33] => .bare
  | 33 :: name => .own (Text.Utf8.decodeText name).toOption
  | octets =>
    match (Text.Utf8.decodeText octets).toOption with
    | some text =>
      if text = known ++ "null" then .null
      else if text = known ++ "bool" then .bool
      else if text = known ++ "int" then .int
      else if text = known ++ "float" then .float
      else .other
    | none => .other

/-- The name that a tag chooses among fixed ones. -/
def choice? : Tag → Option String
  | .bare => some "!"
  | .own name => name
  | _ => none

end Tag

/-! ## Characters of tags -/

/-- Whether a character may stand in a handle, in the name of an anchor or in that of a
directive. -/
def isWordChar (c : Char) : Bool :=
  c.isAlphanum || c = '_' || c = '-'

/-- The characters besides those of words that may stand in a suffix. -/
def tagSigns : List Char :=
  [';', '/', '?', ':', '@', '&', '=', '+', '$', '.', '!', '~', '*', '\x27', '(', ')']

/-- Whether a character may stand in a suffix; between brackets some more may. -/
def isTagChar (inBrackets : Bool) (c : Char) : Bool :=
  isWordChar c || tagSigns.contains c || (inBrackets && (c = ',' || c = '[' || c = ']'))

/-- How many octets follow the first one of a character. -/
def followers? (octet : Nat) : Option Nat :=
  if octet < 0x80 then some 0
  else if octet / 0x20 = 6 then some 1
  else if octet / 0x10 = 14 then some 2
  else if octet / 0x08 = 30 then some 3
  else none

/-- The octets at the front and what follows them; `missing` octets belong to a character of which
the first ones are read.  A percent sign and two hexadecimal digits write any octet. -/
def tagOctets? (inBrackets : Bool) (missing : Nat) : List Char → Option (List UInt8 × List Char)
  | '%' :: a :: b :: rest => do
    let octet := (← Json.Reader.hexValue? a) * 16 + (← Json.Reader.hexValue? b)
    let missing ←
      match missing with
      | 0 => followers? octet
      | missing + 1 => if octet / 0x40 = 2 then some missing else none
    let (octets, rest) ← tagOctets? inBrackets missing rest
    return (UInt8.ofNat octet :: octets, rest)
  | c :: rest =>
    if 0 < missing ∨ c = '%' then none
    else if isTagChar inBrackets c then do
      let (octets, rest) ← tagOctets? inBrackets 0 rest
      return (UInt8.ofNat c.toNat :: octets, rest)
    else some ([], c :: rest)
  | [] => if missing = 0 then some ([], []) else none

/-- Octets up to the first zero, which ends a tag. -/
def beforeZero (octets : List UInt8) : List UInt8 :=
  octets.takeWhile (· ≠ 0)

/-! ## Handles -/

/-- What handles stand for. -/
abbrev Handles := List (String × List UInt8)

/-- The handles that are known in every text. -/
def Handles.initial : Handles :=
  [("!", [33]), ("!!", Text.Utf8.encode Tag.known)]

/-- The handle at the front: an exclamation mark, and the word after it with another one. -/
def handle (cs : List Char) : String × List Char :=
  let word := (cs.drop 1).takeWhile isWordChar
  match cs.drop (1 + word.length) with
  | '!' :: rest => (String.ofList ('!' :: word ++ ['!']), rest)
  | _ => ("!", cs.drop 1)

/-- The tag at the front, which is an exclamation mark, and what follows the tag. -/
def tag? (handles : Handles) (cs : List Char) : Option (Tag × List Char) := do
  match cs with
  | '!' :: '<' :: rest =>
    let (octets, rest) ← tagOctets? true 0 rest
    match octets, rest with
    | _ :: _, '>' :: rest => some (.ofOctets (beforeZero octets), rest)
    | _, _ => none
  | _ =>
    let (handle, rest) := handle cs
    let (octets, rest) ← tagOctets? false 0 rest
    if handle = "!" ∧ beforeZero octets = [] then some (.bare, rest)
    else if handle ≠ "!" ∧ octets = [] then none
    else
      let start ← handles.lookup handle
      some (.ofOctets (beforeZero start ++ beforeZero octets), rest)

/-! ## Directives -/

/-- What a directive says. -/
inductive Directive where
  /-- The text is written in a version that is understood. -/
  | version
  /-- A handle stands for octets. -/
  | handle (name : String) (octets : List UInt8)

/-- A number of a version, of nine digits at most. -/
def versionNumber? (cs : List Char) : Option (Nat × List Char) :=
  let (digits, rest) := cs.span Char.isDigit
  if digits = [] ∨ 9 < digits.length then none else some (Text.digitsValue digits, rest)

/-- A version, which must be 1.1 or 1.2. -/
def version? (cs : List Char) : Option (Directive × List Char) := do
  let (major, rest) ← versionNumber? cs
  match rest with
  | '.' :: rest =>
    let (minor, rest) ← versionNumber? rest
    if major = 1 ∧ (minor = 1 ∨ minor = 2) then some (.version, rest) else none
  | _ => none

/-- A handle and what it stands for. -/
def handleMeaning? (cs : List Char) : Option (Directive × List Char) :=
  match cs with
  | '!' :: next =>
    let (name, rest) := handle cs
    if name = "!" ∧ next.head?.any isWordChar ∨ !rest.head?.any isBlank then none
    else
      match tagOctets? true 0 (rest.dropWhile isBlank) with
      | some (octets, rest) =>
        if octets = [] ∨ !atGap rest then none else some (.handle name octets, rest)
      | none => none
  | _ => none

/-- The directive at a place where a percent sign stands, and the start of the line after it. -/
def directive? (c : Cursor) : Option (Directive × Cursor) := do
  let c := c.next
  let name := c.rest.takeWhile isWordChar
  let c := c.skip name.length
  if !atGap c.rest then none
  else
    let c := c.skipWhile isBlank
    let (directive, rest) ←
      if name = ['Y', 'A', 'M', 'L'] then version? c.rest
      else if name = ['T', 'A', 'G'] then handleMeaning? c.rest
      else none
    let c ← (c.skip (c.rest.length - rest.length)).afterBlanks?
    return (directive, c.lineEnd.2)

end TableFeed.Yaml
