import TableFeed.Yaml.Token

/-!
# YAML nodes

`Node.ofText?` reads the one document of a text.  A text without a document is an
empty scalar.  References stay where they are; `Tree` says what they refer to.
-/

namespace TableFeed.Yaml

/-- A node with all below it. -/
inductive Node where
  /-- A node that stands somewhere else, behind an anchor. -/
  | reference (anchor : Nat)
  /-- A node behind an anchor. -/
  | anchored (anchor : Nat) (content : Node)
  /-- A scalar, plain or in another style. -/
  | scalar (tag : Option Tag) (isPlain : Bool) (text : String)
  /-- A sequence. -/
  | sequence (tag : Option Tag) (items : List Node)
  /-- A mapping, in the order of the text. -/
  | mapping (tag : Option Tag) (members : List (Node × Node))
deriving Inhabited

namespace Node

/-- The scalar that stands where nothing is written. -/
def nothing : Node :=
  .scalar none true ""

/-! ## Properties -/

/-- What may be written before a node: an anchor and a tag, in either order. -/
structure Properties where
  /-- The number of the anchor. -/
  anchor : Option Nat
  /-- The tag. -/
  tag : Option Tag

namespace Properties

/-- The properties at the front and the tokens after them. -/
def split : List Token → Properties × List Token
  | .anchor number :: .tag tag :: rest => (⟨some number, some tag⟩, rest)
  | .tag tag :: .anchor number :: rest => (⟨some number, some tag⟩, rest)
  | .anchor number :: rest => (⟨some number, none⟩, rest)
  | .tag tag :: rest => (⟨none, some tag⟩, rest)
  | tokens => (⟨none, none⟩, tokens)

/-- Whether any is written. -/
def isAny (p : Properties) : Bool :=
  p.anchor.isSome || p.tag.isSome

/-- The tag of a scalar that is written; a mark without a name is no tag. -/
def scalarTag (p : Properties) : Option Tag :=
  p.tag.filter (· ≠ .bare)

/-- A node behind the anchor. -/
def anchoring (p : Properties) (content : Node) : Node :=
  p.anchor.elim content fun number => .anchored number content

end Properties

/-! ## Nodes from tokens -/

mutual

/-- A node.  Block collections may begin only where `inBlock` says so, and a block sequence that is
not indented only as a mapping's key or value, where `indentless` says so. -/
def node? (fuel : Nat) (inBlock indentless : Bool) (tokens : List Token) :
    Option (Node × List Token) :=
  match fuel with
  | 0 => none
  | fuel + 1 =>
    match tokens with
    | .reference number :: rest => some (.reference number, rest)
    | tokens =>
      let (properties, rest) := Properties.split tokens
      (content? fuel inBlock indentless properties rest).map fun (content, rest) =>
        (properties.anchoring content, rest)

/-- A node after its properties.  After any, it may be nothing. -/
def content? (fuel : Nat) (inBlock indentless : Bool) (properties : Properties)
    (tokens : List Token) : Option (Node × List Token) :=
  match fuel with
  | 0 => none
  | fuel + 1 =>
    let tag := properties.tag
    let rest := tokens.drop 1
    match tokens.head?, inBlock, indentless with
    | some (.scalar isPlain text), _, _ => some (.scalar properties.scalarTag isPlain text, rest)
    | some .flowSequenceStart, _, _ =>
      (flowItems? fuel true rest).map fun (items, rest) => (.sequence tag items, rest)
    | some .flowMappingStart, _, _ =>
      (flowMembers? fuel true rest).map fun (members, rest) => (.mapping tag members, rest)
    | some .sequenceStart, true, _ =>
      (blockItems? fuel rest).map fun (items, rest) => (.sequence tag items, rest)
    | some .mappingStart, true, _ =>
      (blockMembers? fuel rest).map fun (members, rest) => (.mapping tag members, rest)
    | some .entry, _, true =>
      (indentlessItems? fuel tokens).map fun (items, rest) => (.sequence tag items, rest)
    | _, _, _ => if properties.isAny then some (.scalar tag true "", tokens) else none

/-- The items of a block sequence up to its end. -/
def blockItems? (fuel : Nat) (tokens : List Token) : Option (List Node × List Token) :=
  match fuel with
  | 0 => none
  | fuel + 1 =>
    match tokens with
    | .blockEnd :: rest => some ([], rest)
    | .entry :: .entry :: rest => addItem nothing (blockItems? fuel (.entry :: rest))
    | .entry :: .blockEnd :: rest => addItem nothing (blockItems? fuel (.blockEnd :: rest))
    | .entry :: rest =>
      match node? fuel true false rest with
      | some (item, rest) => addItem item (blockItems? fuel rest)
      | none => none
    | _ => none

/-- The items of a block sequence that is not indented; it ends where no further item begins. -/
def indentlessItems? (fuel : Nat) (tokens : List Token) : Option (List Node × List Token) :=
  match fuel with
  | 0 => none
  | fuel + 1 =>
    match tokens with
    | .entry :: rest =>
      match rest with
      | .entry :: _ | .key :: _ | .value :: _ | .blockEnd :: _ =>
        addItem nothing (indentlessItems? fuel rest)
      | _ =>
        match node? fuel true false rest with
        | some (item, rest) => addItem item (indentlessItems? fuel rest)
        | none => none
    | rest => some ([], rest)

/-- The members of a block mapping up to its end. -/
def blockMembers? (fuel : Nat) (tokens : List Token) : Option (List (Node × Node) × List Token) :=
  match fuel with
  | 0 => none
  | fuel + 1 =>
    match tokens with
    | .blockEnd :: rest => some ([], rest)
    | .key :: rest =>
      match blockPart? fuel rest with
      | none => none
      | some (key, .value :: rest) =>
        match blockPart? fuel rest with
        | some (value, rest) => addMember key value (blockMembers? fuel rest)
        | none => none
      | some (key, rest) => addMember key nothing (blockMembers? fuel rest)
    | _ => none

/-- A key or value of a block mapping, which may be nothing. -/
def blockPart? (fuel : Nat) (tokens : List Token) : Option (Node × List Token) :=
  match fuel with
  | 0 => none
  | fuel + 1 =>
    match tokens with
    | .key :: _ | .value :: _ | .blockEnd :: _ => some (nothing, tokens)
    | _ => node? fuel true true tokens

/-- The items of a flow sequence up to its end. -/
def flowItems? (fuel : Nat) (isFirst : Bool) (tokens : List Token) :
    Option (List Node × List Token) :=
  match fuel with
  | 0 => none
  | fuel + 1 =>
    match isFirst, tokens with
    | _, .flowSequenceEnd :: rest => some ([], rest)
    | true, tokens => flowItem? fuel tokens
    | false, .flowEntry :: .flowSequenceEnd :: rest => some ([], rest)
    | false, .flowEntry :: rest => flowItem? fuel rest
    | false, _ => none

/-- One item of a flow sequence and those after it.  A key makes it a mapping with one member. -/
def flowItem? (fuel : Nat) (tokens : List Token) : Option (List Node × List Token) :=
  match fuel with
  | 0 => none
  | fuel + 1 =>
    match tokens with
    | .key :: rest =>
      match flowItemKey? fuel rest with
      | none => none
      | some (key, .value :: rest) =>
        match flowPart? fuel .flowSequenceEnd rest with
        | some (value, rest) => addItem (.mapping none [(key, value)]) (flowItems? fuel false rest)
        | none => none
      | some (key, rest) => addItem (.mapping none [(key, nothing)]) (flowItems? fuel false rest)
    | tokens =>
      match node? fuel false false tokens with
      | some (item, rest) => addItem item (flowItems? fuel false rest)
      | none => none

/-- The key of a mapping that is an item of a flow sequence.  When there is none, the token that
stands for its end is gone with it. -/
def flowItemKey? (fuel : Nat) (tokens : List Token) : Option (Node × List Token) :=
  match fuel with
  | 0 => none
  | fuel + 1 =>
    match tokens with
    | .value :: rest | .flowEntry :: rest | .flowSequenceEnd :: rest => some (nothing, rest)
    | tokens => node? fuel false false tokens

/-- The members of a flow mapping up to its end. -/
def flowMembers? (fuel : Nat) (isFirst : Bool) (tokens : List Token) :
    Option (List (Node × Node) × List Token) :=
  match fuel with
  | 0 => none
  | fuel + 1 =>
    match isFirst, tokens with
    | _, .flowMappingEnd :: rest => some ([], rest)
    | true, tokens => flowMember? fuel tokens
    | false, .flowEntry :: .flowMappingEnd :: rest => some ([], rest)
    | false, .flowEntry :: rest => flowMember? fuel rest
    | false, _ => none

/-- One member of a flow mapping and those after it. -/
def flowMember? (fuel : Nat) (tokens : List Token) :
    Option (List (Node × Node) × List Token) :=
  match fuel with
  | 0 => none
  | fuel + 1 =>
    match tokens with
    | .key :: rest =>
      match flowKey? fuel rest with
      | none => none
      | some (key, .value :: rest) =>
        match flowPart? fuel .flowMappingEnd rest with
        | some (value, rest) => addMember key value (flowMembers? fuel false rest)
        | none => none
      | some (key, rest) => addMember key nothing (flowMembers? fuel false rest)
    | tokens =>
      match node? fuel false false tokens with
      | some (key, rest) => addMember key nothing (flowMembers? fuel false rest)
      | none => none

/-- A value inside a flow collection that ends with `closing`; it may be nothing. -/
def flowPart? (fuel : Nat) (closing : Token) (tokens : List Token) : Option (Node × List Token) :=
  match fuel with
  | 0 => none
  | fuel + 1 =>
    match tokens with
    | [] => none
    | token :: rest =>
      if token = .flowEntry ∨ token = closing then some (nothing, token :: rest)
      else node? fuel false false (token :: rest)

/-- The key of a flow mapping; it may be nothing. -/
def flowKey? (fuel : Nat) (tokens : List Token) : Option (Node × List Token) :=
  match fuel with
  | 0 => none
  | fuel + 1 =>
    match tokens with
    | .value :: _ | .flowEntry :: _ | .flowMappingEnd :: _ => some (nothing, tokens)
    | tokens => node? fuel false false tokens

/-- Puts an item before the items that follow. -/
def addItem (item : Node) (rest : Option (List Node × List Token)) :
    Option (List Node × List Token) :=
  rest.map fun (items, rest) => (item :: items, rest)

/-- Puts a member before the members that follow. -/
def addMember (key value : Node) (rest : Option (List (Node × Node) × List Token)) :
    Option (List (Node × Node) × List Token) :=
  rest.map fun (members, rest) => ((key, value) :: members, rest)

end

/-- Whether only marks of a document's end remain. -/
def onlyEnds (tokens : List Token) : Bool :=
  tokens.all (· == .documentEnd)

/-- The tokens after directives, of which at most one tells the version. -/
def afterDirectives? : List Token → Option (List Token)
  | .handle :: rest => afterDirectives? rest
  | .version :: rest => if rest.contains .version then none else afterDirectives? rest
  | tokens => some tokens

/-- The tokens of the document, and whether its start is marked.  Directives ask for the mark. -/
def opening? (tokens : List Token) : Option (Bool × List Token) :=
  match tokens, afterDirectives? tokens with
  | _, some (.documentStart :: rest) => some (true, rest)
  | .handle :: _, _ | .version :: _, _ | _, none => none
  | _, some rest => some (false, rest)

/-- The document of a text's tokens, when it is the only one. -/
def ofTokens? (tokens : List Token) : Option Node := do
  let (isMarked, rest) ← opening? tokens
  let (node, rest) ←
    match isMarked, rest with
    | _, [] | true, .documentEnd :: _ => some (nothing, rest)
    | _, _ => node? (6 * tokens.length + 6) true false rest
  if onlyEnds rest then some node else none

/-- The document of a text. -/
def ofText? (text : String) : Option Node :=
  (Token.scan? text).bind ofTokens?

end Node

end TableFeed.Yaml
