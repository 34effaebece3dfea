import TableFeed.Text.Alphanumeric

/-!
# Variables of the environment

Before a configuration is read, variables in its text are replaced: `$NAME`,
`${NAME}` and `${NAME:-default}`, where the default counts only when the variable is
not set.  Two dollar signs write one.  A dollar sign that begins none of these stays,
and so does an opening brace that is never closed.  Replaced text is not looked at
again.  A variable that is used, not set and has no default is a fault.
-/

namespace TableFeed.Environment

/-- Whether a character may stand in a variable's name. -/
def isNameChar (c : Char) : Bool :=
  Text.isAlphanumeric c || c = '_'

/-- The text before the first `:-` and the text after it. -/
def splitDefault? : List Char → Option (List Char × List Char)
  | [] => none
  | ':' :: '-' :: rest => some ([], rest)
  | c :: rest => (splitDefault? rest).map fun (name, default) => (c :: name, default)

/-- The name in braces, and its default if it has one.  There is no default without a name. -/
def nameAndDefault (body : List Char) : List Char × Option (List Char) :=
  match splitDefault? body with
  | some (name, default) => if name = [] then (body, none) else (name, some default)
  | none => (body, none)

/-- The value of a variable, or its default, or the name as a fault. -/
def valueOf (lookup : String → Option String) (name : List Char) (default : Option (List Char)) :
    Except String (List Char) :=
  match lookup (String.ofList name), default with
  | some value, _ => .ok value.toList
  | none, some default => .ok default
  | none, none => .error (String.ofList name)

/-- The characters with variables replaced.  Every step takes at least one character, so as much
`fuel` as there are characters is enough. -/
def expandFrom (lookup : String → Option String) (fuel : Nat) (cs : List Char) :
    Except String (List Char) :=
  match fuel with
  | 0 => .ok []
  | fuel + 1 =>
    match cs with
    | [] => .ok []
    | '$' :: '$' :: rest => (expandFrom lookup fuel rest).map ('$' :: ·)
    | '$' :: '\x7b' :: rest =>
      match rest.span (· ≠ '\x7d') with
      | (_, []) => (expandFrom lookup fuel rest).map fun after => '$' :: '\x7b' :: after
      | (body, _ :: rest) => do
        let (name, default) := nameAndDefault body
        let value ← valueOf lookup name default
        return value ++ (← expandFrom lookup fuel rest)
    | '$' :: rest =>
      match rest.span isNameChar with
      | ([], rest) => (expandFrom lookup fuel rest).map ('$' :: ·)
      | (name, rest) => do
        let value ← valueOf lookup name none
        return value ++ (← expandFrom lookup fuel rest)
    | c :: rest => (expandFrom lookup fuel rest).map (c :: ·)

/-- The text with variables replaced, or the name of one that is not set. -/
def expand (lookup : String → Option String) (text : String) : Except String String :=
  (expandFrom lookup text.length text.toList).map String.ofList

/-! ## The variables of a text -/

/-- The name that stands after a dollar sign, in braces or without; empty when there is none. -/
def nameAfter : List Char → List Char
  | '\x7b' :: rest => (nameAndDefault (rest.takeWhile (· ≠ '\x7d'))).1
  | rest => rest.takeWhile isNameChar

/-- The names after the dollar signs of a text.  No other variable is asked for when the text is
expanded. -/
def names : List Char → List String
  | [] => []
  | '$' :: rest => String.ofList (nameAfter rest) :: names rest
  | _ :: rest => names rest

end TableFeed.Environment
