import TableFeed.Entries
import TableFeed.Json.Basic
import TableFeed.Text.Digits

/-!
# Reading JSON text

Each reader takes the characters that remain and answers a value with those left
over, or nothing when the text is at fault.  `Json.ofText?` reads a whole text.

Containers may be nested `depthLimit` deep.  `value` counts down a `depth` of
containers still allowed, and a `fuel` that the number of characters bounds: every
second call takes at least one character.

An object whose first key is `embeddingKey` is no object: it holds one text, and it
stands for the value that the text writes.

`skip` reads a value nobody wants.  It checks the grammar only, so it neither
counts containers nor asks that a number or an escape have a meaning.
-/

namespace TableFeed.Json.Reader

/-- How deep containers may be nested in one text. -/
def depthLimit : Nat := 127

/-- Whether a character may stand between tokens. -/
def isSpace (c : Char) : Bool :=
  c = ' ' || c = '\t' || c = '\n' || c = '\r'

/-- The characters from the next token on. -/
def toToken (cs : List Char) : List Char :=
  cs.dropWhile isSpace

/-- The characters after `word`, when they begin with it. -/
def after? (word : List Char) : List Char → Option (List Char)
  | [] => if word.isEmpty then some [] else none
  | c :: cs =>
    match word with
    | [] => some (c :: cs)
    | w :: ws => if w = c then after? ws cs else none

/-! ## Numbers -/

/-- The value of a digit. -/
def digitValue (c : Char) : Nat :=
  c.toNat - '0'.toNat

/-- Takes digits of the whole part while the number fits 64 bits; answers the number and how many
digits are left out. -/
def keepWhole (significand : Nat) : List Char → Nat × Nat
  | [] => (significand, 0)
  | d :: rest =>
    let next := significand * 10 + digitValue d
    if next < twoTo 64 then keepWhole next rest else (significand, rest.length + 1)

/-- Takes digits of the fraction while the number fits 64 bits; answers the number and how many
digits were taken. -/
def keepFraction (significand : Nat) : List Char → Nat × Nat
  | [] => (significand, 0)
  | d :: rest =>
    let next := significand * 10 + digitValue d
    if next < twoTo 64 then
      let kept := keepFraction next rest
      (kept.1, kept.2 + 1)
    else (significand, 0)

/-- The parts of a number's text. -/
structure NumberText where
  /-- Whether there is a minus sign. -/
  negative : Bool
  /-- The digits before the point. -/
  whole : List Char
  /-- The digits after the point, when there is one. -/
  fraction : Option (List Char)
  /-- The exponent, when there is one. -/
  exponent : Option Int

/-- Digits of an exponent, at least one, and what follows them. -/
def exponentDigits? (negative : Bool) (cs : List Char) : Option (Int × List Char) :=
  match cs.span Char.isDigit with
  | ([], _) => none
  | (digits, rest) =>
    let value : Int := Text.digitsValue digits
    some (if negative then -value else value, rest)

/-- The exponent of a number, if one is written. -/
def exponent? : List Char → Option (Option Int × List Char)
  | [] => some (none, [])
  | c :: cs =>
    if c = 'e' ∨ c = 'E' then
      let read :=
        match cs with
        | '+' :: rest => exponentDigits? false rest
        | '-' :: rest => exponentDigits? true rest
        | rest => exponentDigits? false rest
      read.map fun (value, rest) => (some value, rest)
    else some (none, c :: cs)

/-- The fraction of a number, if one is written. -/
def fraction? : List Char → Option (Option (List Char) × List Char)
  | '.' :: cs =>
    match cs.span Char.isDigit with
    | ([], _) => none
    | (digits, rest) => some (some digits, rest)
  | cs => some (none, cs)

/-- The digits before the point: at least one, and no zero before another. -/
def whole? (cs : List Char) : Option (List Char × List Char) :=
  match cs.span Char.isDigit with
  | ([], _) => none
  | ('0' :: _ :: _, _) => none
  | (digits, rest) => some (digits, rest)

/-- The parts of a number that is written at the front of the characters. -/
def numberText? (cs : List Char) : Option (NumberText × List Char) := do
  let (negative, cs) :=
    match cs with
    | '-' :: rest => (true, rest)
    | cs => (false, cs)
  let (whole, cs) ← whole? cs
  let (fraction, cs) ← fraction? cs
  let (exponent, cs) ← exponent? cs
  return (⟨negative, whole, fraction, exponent⟩, cs)

/-- The whole number that a text without fraction and exponent writes, when it fits 64 bits.  A
zero with a minus sign is none: only a binary64 zero has a sign. -/
def wholeNumber? (negative : Bool) (digits : List Char) : Option Whole :=
  let value := Text.digitsValue digits
  if negative then
    if 0 < value then Whole.ofInt? (-(value : Int)) else none
  else Whole.ofInt? value

/-- The binary64 number that a text writes, from as many digits as fit 64 bits. -/
def realNumber? (t : NumberText) : Option Binary64 :=
  let (significand, dropped) := keepWhole 0 t.whole
  let (significand, taken) := keepFraction significand (t.fraction.getD [])
  Binary64.ofScientific? t.negative significand
    ((dropped : Int) - (taken : Int) + t.exponent.getD 0)

/-- The number that a text writes; none when it is too large. -/
def NumberText.number? (t : NumberText) : Option Number :=
  match t.fraction, t.exponent, wholeNumber? t.negative t.whole with
  | none, none, some n => some (.whole n)
  | _, _, _ => (realNumber? t).map .real

/-- A number at the front of the characters. -/
def number? (cs : List Char) : Option (Number × List Char) := do
  let (t, rest) ← numberText? cs
  return (← t.number?, rest)

/-! ## Strings -/

/-- The value of a hexadecimal digit. -/
def hexValue? (c : Char) : Option Nat :=
  if c.isDigit then some (c.toNat - '0'.toNat)
  else if 'a' ≤ c ∧ c ≤ 'f' then some (c.toNat - 'a'.toNat + 10)
  else if 'A' ≤ c ∧ c ≤ 'F' then some (c.toNat - 'A'.toNat + 10)
  else none

/-- The value of four hexadecimal digits. -/
def hex4? (a b c d : Char) : Option Nat := do
  return (((← hexValue? a) * 16 + (← hexValue? b)) * 16 + (← hexValue? c)) * 16 + (← hexValue? d)

/-- The character that a letter after a backslash stands for. -/
def escaped? (c : Char) : Option Char :=
  if c = '"' ∨ c = '\\' ∨ c = '/' then some c
  else if c = 'b' then some '\x08'
  else if c = 'f' then some '\x0c'
  else if c = 'n' then some '\n'
  else if c = 'r' then some '\r'
  else if c = 't' then some '\t'
  else none

/-- Whether a code unit opens a pair. -/
def isLeading (unit : Nat) : Bool :=
  0xD800 ≤ unit && unit ≤ 0xDBFF

/-- Whether a code unit closes a pair. -/
def isTrailing (unit : Nat) : Bool :=
  0xDC00 ≤ unit && unit ≤ 0xDFFF

/-- The character of a pair of code units. -/
def pairChar (leading trailing : Nat) : Char :=
  Char.ofNat (0x10000 + (leading - 0xD800) * 0x400 + (trailing - 0xDC00))

/-- The rest of a string after its opening quote; `done` holds the characters read, last first. -/
def string? (done : List Char) : List Char → Option (List Char × List Char)
  | [] => none
  | '"' :: rest => some (done.reverse, rest)
  | '\\' :: 'u' :: a :: b :: c :: d :: rest => do
    let unit ← hex4? a b c d
    if isLeading unit then
      match rest with
      | '\\' :: 'u' :: a :: b :: c :: d :: rest =>
        let other ← hex4? a b c d
        if isTrailing other then string? (pairChar unit other :: done) rest else none
      | _ => none
    else if isTrailing unit then none
    else string? (Char.ofNat unit :: done) rest
  | '\\' :: c :: rest => do string? ((← escaped? c) :: done) rest
  | c :: rest => if c.toNat < 0x20 ∨ c = '\\' then none else string? (c :: done) rest

/-- A string at the front of the characters. -/
def text? : List Char → Option (String × List Char)
  | '"' :: rest => (string? [] rest).map fun (cs, rest) => (String.ofList cs, rest)
  | _ => none

/-- A member's key with the colon after it. -/
def key? (cs : List Char) : Option (String × List Char) := do
  let (key, rest) ← text? (toToken cs)
  match toToken rest with
  | ':' :: rest => some (key, rest)
  | _ => none

/-! ## Embedded texts -/

/-- The key that marks an object as standing for the value that its text writes. -/
def embeddingKey : String :=
  "$serde_json::private::RawValue"

/-- Whether members begin with an embedded text. -/
def opensEmbedded (cs : List Char) : Bool :=
  (key? cs).any fun first => first.1 = embeddingKey

/-- The embedded text that is the only member, with what follows the closing brace. -/
def embeddedText? (cs : List Char) : Option (List Char × List Char) := do
  let (_, rest) ← key? cs
  let (text, rest) ← text? (toToken rest)
  match toToken rest with
  | '\x7d' :: rest => some (text.toList, rest)
  | _ => none

/-! ## Values -/

mutual

/-- A value, blanks before it allowed. -/
def value? (fuel depth : Nat) (cs : List Char) : Option (Json × List Char) :=
  match fuel with
  | 0 => none
  | fuel + 1 =>
    match toToken cs with
    | [] => none
    | c :: rest =>
      if c = 'n' then (after? ['u', 'l', 'l'] rest).map fun rest => (.null, rest)
      else if c = 't' then (after? ['r', 'u', 'e'] rest).map fun rest => (.bool true, rest)
      else if c = 'f' then (after? ['a', 'l', 's', 'e'] rest).map fun rest => (.bool false, rest)
      else if c = '"' then
        (string? [] rest).map fun (cs, rest) => (.string (String.ofList cs), rest)
      else if c = '[' then
        match depth with
        | 0 => none
        | depth + 1 =>
          match toToken rest with
          | ']' :: rest => some (.array [], rest)
          | rest => (items? fuel depth rest).map fun (items, rest) => (.array items, rest)
      else if c = '\x7b' then
        match depth with
        | 0 => none
        | depth + 1 =>
          match toToken rest with
          | '\x7d' :: rest => some (.object [], rest)
          | rest =>
            if opensEmbedded rest then embedded? fuel rest
            else
              (members? fuel depth rest).map fun (members, rest) =>
                (.object (Entries.sorted members), rest)
      else (number? (c :: rest)).map fun (n, rest) => (.number n, rest)

/-- The value that an embedded text writes, nested as if it stood alone. -/
def embedded? (fuel : Nat) (cs : List Char) : Option (Json × List Char) :=
  match fuel with
  | 0 => none
  | fuel + 1 =>
    match embeddedText? cs with
    | none => none
    | some (text, rest) =>
      match value? fuel depthLimit text with
      | some (value, left) => if toToken left = [] then some (value, rest) else none
      | none => none

/-- Items up to the closing bracket, at least one. -/
def items? (fuel depth : Nat) (cs : List Char) : Option (List Json × List Char) :=
  match fuel with
  | 0 => none
  | fuel + 1 =>
    match value? fuel depth cs with
    | none => none
    | some (item, rest) =>
      match toToken rest with
      | ']' :: rest => some ([item], rest)
      | ',' :: rest => (items? fuel depth rest).map fun (items, rest) => (item :: items, rest)
      | _ => none

/-- Members up to the closing brace, at least one, in the order of the text. -/
def members? (fuel depth : Nat) (cs : List Char) : Option (List (String × Json) × List Char) :=
  match fuel with
  | 0 => none
  | fuel + 1 =>
    match key? cs with
    | none => none
    | some (key, rest) =>
      match value? fuel depth rest with
      | none => none
      | some (value, rest) =>
        match toToken rest with
        | '\x7d' :: rest => some ([(key, value)], rest)
        | ',' :: rest =>
          (members? fuel depth rest).map fun (members, rest) => ((key, value) :: members, rest)
        | _ => none

end

/-- Enough fuel for every value that the characters can hold. -/
def fuelFor (cs : List Char) : Nat :=
  2 * cs.length + 2

/-- A value that is nested in `outer` containers already. -/
def nested? (outer : Nat) (cs : List Char) : Option (Json × List Char) :=
  value? (fuelFor cs) (depthLimit - outer) cs

/-! ## Values nobody wants -/

/-- The characters after a string whose opening quote was read. -/
def skipString? : List Char → Option (List Char)
  | [] => none
  | '"' :: rest => some rest
  | '\\' :: 'u' :: a :: b :: c :: d :: rest =>
    if (hex4? a b c d).isSome then skipString? rest else none
  | '\\' :: c :: rest => if (escaped? c).isSome then skipString? rest else none
  | c :: rest => if c.toNat < 0x20 ∨ c = '\\' then none else skipString? rest

/-- The characters after a key and its colon. -/
def skipKey? (cs : List Char) : Option (List Char) :=
  match toToken cs with
  | '"' :: rest =>
    match skipString? rest with
    | none => none
    | some rest =>
      match toToken rest with
      | ':' :: rest => some rest
      | _ => none
  | _ => none

mutual

/-- The characters after a value. -/
def skip? (fuel : Nat) (cs : List Char) : Option (List Char) :=
  match fuel with
  | 0 => none
  | fuel + 1 =>
    match toToken cs with
    | [] => none
    | c :: rest =>
      if c = 'n' then after? ['u', 'l', 'l'] rest
      else if c = 't' then after? ['r', 'u', 'e'] rest
      else if c = 'f' then after? ['a', 'l', 's', 'e'] rest
      else if c = '"' then skipString? rest
      else if c = '[' then
        match toToken rest with
        | ']' :: rest => some rest
        | rest => skipItems? fuel rest
      else if c = '\x7b' then
        match toToken rest with
        | '\x7d' :: rest => some rest
        | rest => skipMembers? fuel rest
      else (numberText? (c :: rest)).map Prod.snd

/-- The characters after items and their closing bracket. -/
def skipItems? (fuel : Nat) (cs : List Char) : Option (List Char) :=
  match fuel with
  | 0 => none
  | fuel + 1 =>
    match skip? fuel cs with
    | none => none
    | some rest =>
      match toToken rest with
      | ']' :: rest => some rest
      | ',' :: rest => skipItems? fuel rest
      | _ => none

/-- The characters after members and their closing brace. -/
def skipMembers? (fuel : Nat) (cs : List Char) : Option (List Char) :=
  match fuel with
  | 0 => none
  | fuel + 1 =>
    match skipKey? cs with
    | none => none
    | some rest =>
      match skip? fuel rest with
      | none => none
      | some rest =>
        match toToken rest with
        | '\x7d' :: rest => some rest
        | ',' :: rest => skipMembers? fuel rest
        | _ => none

end

/-- Whether nothing but blanks remains. -/
def atEnd (cs : List Char) : Bool :=
  (toToken cs).isEmpty

end TableFeed.Json.Reader

namespace TableFeed.Json

/-- The value that a whole text writes. -/
def ofText? (text : String) : Option Json :=
  match Reader.nested? 0 text.toList with
  | some (value, rest) => if Reader.atEnd rest then some value else none
  | none => none

/-! ## Values read again

Where a record takes in a value of any kind, the value's members are read once more in the order of
their keys, and a first key that marks an embedded text counts even if it came later in the text. -/

mutual

/-- The value that a value is read as. -/
def resolve? : Json → Option Json
  | .array items => (resolveItems? items).map .array
  | .object ((key, value) :: rest) =>
    if key = Reader.embeddingKey then
      match value, rest with
      | .string text, [] => ofText? text
      | _, _ => none
    else do
      let value ← resolve? value
      let rest ← resolveMembers? rest
      return .object ((key, value) :: rest)
  | value => some value

/-- The values that items are read as. -/
def resolveItems? : List Json → Option (List Json)
  | [] => some []
  | item :: rest => do
    let item ← resolve? item
    let rest ← resolveItems? rest
    return item :: rest

/-- Members with the values that theirs are read as. -/
def resolveMembers? : List (String × Json) → Option (List (String × Json))
  | [] => some []
  | (key, value) :: rest => do
    let value ← resolve? value
    let rest ← resolveMembers? rest
    return (key, value) :: rest

end

end TableFeed.Json
