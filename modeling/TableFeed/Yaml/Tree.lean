import TableFeed.Entries
import TableFeed.Json.Basic
import TableFeed.Shape
import TableFeed.Yaml.Node
import TableFeed.Yaml.Scalar

/-!
# YAML documents read by their shape

A `Tree` is a document in which references can be followed.  `Tree.toJson?` reads it
as a `Shape` asks: a scalar in any style is a text where a text is asked for, and an
empty plain scalar is an empty list, map or record too.  Members that a record does
not have are passed over with all below them.

References may lead around in circles, and a few of them may stand for very much.
They are followed only where something is asked for, and `stepsPerPart` bounds how
often.
-/

namespace TableFeed.Yaml

/-! ## Anchors -/

namespace Node

mutual

/-- The nodes behind anchors, in the order of the text. -/
def anchors : Node → List (Nat × Node)
  | .reference _ => []
  | .anchored number content => (number, content) :: content.anchors
  | .scalar .. => []
  | .sequence _ items => anchorsItems items
  | .mapping _ members => anchorsMembers members

/-- The nodes behind anchors in items. -/
def anchorsItems : List Node → List (Nat × Node)
  | [] => []
  | item :: rest => item.anchors ++ anchorsItems rest

/-- The nodes behind anchors in members. -/
def anchorsMembers : List (Node × Node) → List (Nat × Node)
  | [] => []
  | (key, value) :: rest => key.anchors ++ value.anchors ++ anchorsMembers rest

end

mutual

/-- The parts of a node: its scalars and references, and two for every collection. -/
def parts : Node → Nat
  | .reference _ => 1
  | .anchored _ content => content.parts
  | .scalar .. => 1
  | .sequence _ items => partsItems items + 2
  | .mapping _ members => partsMembers members + 2

/-- The parts of items. -/
def partsItems : List Node → Nat
  | [] => 0
  | item :: rest => item.parts + partsItems rest

/-- The parts of members. -/
def partsMembers : List (Node × Node) → Nat
  | [] => 0
  | (key, value) :: rest => key.parts + value.parts + partsMembers rest

end

/-! ## Scalars -/

/-- The text of a scalar. -/
def asText? : Node → Option String
  | .scalar _ _ text => some text
  | _ => none

/-- Whether a node is an empty plain scalar. -/
def isEmpty : Node → Bool
  | .scalar _ true "" => true
  | _ => false

/-- The text of a scalar unless it stands for nothing; a fault when a tag says that it does and the
text does not. -/
def asOptionalText? : Node → Option (Option String)
  | .scalar none true text => some (if isNothing text then none else some text)
  | .scalar (some .null) true text => if nullWords.contains text then some none else none
  | .scalar _ _ text => some (some text)
  | _ => none

/-- The name that a scalar chooses among fixed ones: the name of its tag, or else its text.  Beside
the name of a tag nothing may be written. -/
def asChoice? : Node → Option String
  | .scalar tag isPlain text =>
    match tag.bind Tag.choice? with
    | some name => if isPlain && isNothing text then some name else none
    | none => some text
  | _ => none

/-- The text of a scalar that is a text and nothing else where any value may stand. -/
def asOwnText? : Node → Option String
  | .scalar (some .other) _ text => some text
  | .scalar none isPlain text => if !isPlain || isOwnText text then some text else none
  | .scalar (some (.own none)) isPlain text =>
    if !isPlain || isOwnText text then some text else none
  | _ => none

/-! ## Collections -/

/-- The items of a sequence. -/
def asItems? (node : Node) : Option (List Node) :=
  match node with
  | .sequence _ items => some items
  | node => if node.isEmpty then some [] else none

/-- The members of a mapping. -/
def asMembers? (node : Node) : Option (List (Node × Node)) :=
  match node with
  | .mapping _ members => some members
  | node => if node.isEmpty then some [] else none

/-- The members of a mapping where any value may stand, which has no tag of the author's own. -/
def asOwnMembers? : Node → Option (List (Node × Node))
  | .mapping tag members => if (tag.bind Tag.choice?).isSome then none else some members
  | _ => none

end Node

/-! ## Documents -/

/-- A document. -/
structure Tree where
  /-- The outermost node. -/
  root : Node
  /-- The nodes behind anchors, the last one first. -/
  anchors : List (Nat × Node)

namespace Tree

/-- The document with an outermost node. -/
def ofNode (root : Node) : Tree :=
  ⟨root, root.anchors.reverse⟩

/-- How many references may be followed for every part of a document. -/
def stepsPerPart : Nat := 100

/-- What may fail, and what follows a limited number of references. -/
abbrev Reading := StateT Nat Option

/-- Follows a reference. -/
def follow (tree : Tree) (number : Nat) : Reading Node := do
  match ← get with
  | 0 => failure
  | left + 1 =>
    set left
    (tree.anchors.lookup number).elim failure pure

/-- The node that a node stands for. -/
def content (tree : Tree) : Node → Reading Node
  | .reference number => tree.follow number
  | .anchored _ content => pure content
  | node => pure node

/-- The node that a node stands for, as `read` sees it. -/
def view {α : Type} (tree : Tree) (read : Node → Option α) (node : Node) : Reading α := do
  (read (← tree.content node)).elim failure pure

/-- A member of a map of texts. -/
def textMember (tree : Tree) (member : Node × Node) : Reading (String × Json) := do
  let key ← tree.view Node.asOwnText? member.1
  let value ← tree.view Node.asOwnText? member.2
  return (key, .string value)

/-- Texts by name, written as a map or as one compact text, or nothing. -/
def compact (tree : Tree) (node : Node) : Reading Json := do
  let node ← tree.content node
  match node.asOwnMembers?, node.asOptionalText? with
  | some members, _ => return .object (Entries.sorted (← members.mapM tree.textMember))
  | none, some none => return .null
  | none, _ => return .string (← node.asOwnText?.elim failure pure)

mutual

/-- A node as a shape asks. -/
def read (tree : Tree) : Shape → Node → Reading Json
  | .text, node => do return .string (← tree.view Node.asText? node)
  | .optionalText, node => do return (← tree.view Node.asOptionalText? node).elim .null .string
  | .choice, node => do return .string (← tree.view Node.asChoice? node)
  | .compact, node => tree.compact node
  | .list item, node => do
    let items ← tree.view Node.asItems? node
    return .array (← items.mapM (read tree item))
  | .map value, node => do
    let members ← tree.view Node.asMembers? node
    let members ← members.mapM fun member => do
      let key ← tree.view Node.asText? member.1
      return (key, ← read tree value member.2)
    return .object (Entries.sorted members)
  | .record shapes, node => do
    let members ← tree.view Node.asMembers? node
    let members ← members.mapM fun member => do
      let name ← tree.view Node.asText? member.1
      readMember tree shapes name member.2
    let members := members.flatten
    if (members.map Prod.fst).Nodup then return .object (Entries.sorted members) else failure

/-- A member of a record, when the record has it. -/
def readMember (tree : Tree) :
    List (String × Shape) → String → Node → Reading (List (String × Json))
  | [], _, _ => pure []
  | (name, shape) :: rest, wanted, node =>
    if name = wanted then do return [(name, ← read tree shape node)]
    else readMember tree rest wanted node

end

/-- The document as a shape asks. -/
def toJson? (tree : Tree) (shape : Shape) : Option Json :=
  ((tree.read shape tree.root).run (stepsPerPart * tree.root.parts)).map Prod.fst

end Tree

end TableFeed.Yaml
