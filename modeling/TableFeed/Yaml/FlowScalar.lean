import TableFeed.Json.Reader
import TableFeed.Yaml.Cursor

/-!
# Scalars in flow style

Plain and quoted scalars.  They go on over line ends, and what blanks and line ends
inside them stand for is `Gap.text`.
-/

namespace TableFeed.Yaml

/-! ## Quoted scalars -/

/-- The character that a letter after a backslash stands for. -/
def escape? (c : Char) : Option Char :=
  match c with
  | '0' => some '\x00'
  | 'a' => some '\x07'
  | 'b' => some '\x08'
  | 't' => some '\t'
  | '\t' => some '\t'
  | 'n' => some '\n'
  | 'v' => some '\x0b'
  | 'f' => some '\x0c'
  | 'r' => some '\r'
  | 'e' => some '\x1b'
  | ' ' => some ' '
  | '"' => some '"'
  | '/' => some '/'
  | '\\' => some '\\'
  | 'N' => some '\u0085'
  | '_' => some '\u00a0'
  | 'L' => some '\u2028'
  | 'P' => some '\u2029'
  | _ => none

/-- How many hexadecimal digits follow a letter after a backslash. -/
def escapeLength? (c : Char) : Option Nat :=
  if c = 'x' then some 2 else if c = 'u' then some 4 else if c = 'U' then some 8 else none

/-- The character with a code point written in hexadecimal digits. -/
def codePoint? (digits : List Char) (length : Nat) : Option Char := do
  let values ← digits.mapM Json.Reader.hexValue?
  let code := values.foldl (fun value d => value * 16 + d) 0
  if digits.length = length ∧ code.isValidChar then some (Char.ofNat code) else none

/-- The rest of a quoted scalar; `done` holds its characters, last first. -/
def quoted? (quote : Char) (fuel : Nat) (done : List Char) (c : Cursor) :
    Option (String × Cursor) :=
  match fuel with
  | 0 => none
  | fuel + 1 =>
    if c.atDocument then none
    else
      match c.rest with
      | [] => none
      | char :: rest =>
        if char = quote then
          if quote = '\x27' ∧ rest.head? = some '\x27' then
            quoted? quote fuel ('\x27' :: done) (c.skip 2)
          else some (String.ofList done.reverse, c.next)
        else if quote = '"' ∧ char = '\\' then
          match rest with
          | [] => none
          | letter :: _ =>
            if isBreak letter then do
              let (_, after) := c.next.lineEnd
              let (gap, after) ← Gap.folded.take? 0 (after.rest.length + 1) after
              quoted? quote fuel (gap.text.reverse ++ done) after
            else
              match escape? letter, escapeLength? letter with
              | some char, _ => quoted? quote fuel (char :: done) (c.skip 2)
              | none, some length => do
                let char ← codePoint? ((rest.drop 1).take length) length
                quoted? quote fuel (char :: done) (c.skip (2 + length))
              | none, none => none
        else if isBlank char ∨ isBreak char then do
          let (gap, after) ← Gap.empty.take? 0 (c.rest.length + 1) c
          quoted? quote fuel (gap.text.reverse ++ done) after
        else quoted? quote fuel (char :: done) c.next

/-! ## Plain scalars -/

/-- Whether a character separates the parts of a flow collection. -/
def isFlowIndicator (c : Char) : Bool :=
  c = ',' || c = '[' || c = ']' || c = '\x7b' || c = '\x7d'

/-- A stretch of a plain scalar without blanks; `done` holds the characters, last first. -/
def plainRun? (inFlow : Bool) (fuel : Nat) (done : List Char) (c : Cursor) :
    Option (List Char × Cursor) :=
  match fuel with
  | 0 => none
  | fuel + 1 =>
    match c.rest with
    | [] => some (done, c)
    | char :: rest =>
      if isBlank char ∨ isBreak char then some (done, c)
      else if char = ':' ∧ atGap rest then some (done, c)
      else if inFlow ∧ char = ':' ∧ rest.head?.any (fun c => isFlowIndicator c || c = '?') then none
      else if inFlow ∧ isFlowIndicator char then some (done, c)
      else plainRun? inFlow fuel (char :: done) c.next

/-- A plain scalar and whether a line ended after it; `gap` holds the blanks before the next
stretch. -/
def plain? (inFlow : Bool) (indent : Nat) (fuel : Nat) (done : List Char) (gap : Gap) (c : Cursor) :
    Option (String × Bool × Cursor) :=
  match fuel with
  | 0 => none
  | fuel + 1 => do
    let finished := some (String.ofList done.reverse, gap.broken, c)
    if c.atDocument ∨ c.rest.head? = some '#' then finished
    else
      let (run, after) ← plainRun? inFlow (c.rest.length + 1) [] c
      if run = [] then finished
      else
        let done := run ++ gap.text.reverse ++ done
        match after.rest with
        | [] => some (String.ofList done.reverse, false, after)
        | char :: _ =>
          if isBlank char ∨ isBreak char then
            let (gap, next) ← Gap.empty.take? indent (after.rest.length + 1) after
            if !inFlow ∧ next.column < indent then
              some (String.ofList done.reverse, gap.broken, next)
            else plain? inFlow indent fuel done gap next
          else some (String.ofList done.reverse, false, after)

end TableFeed.Yaml
