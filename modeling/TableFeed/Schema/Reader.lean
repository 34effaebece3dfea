import TableFeed.Json.Reader
import TableFeed.Schema.Basic

/-!
# Schemas from JSON values

`Schema.ofJson?` reads a schema from an object by the names of its members, or
from an array by their order.  Members with other names are passed over.  A member
that is not there has its default; only the kind has none.  Null is accepted for
what may be missing and for nothing else.

A field is an object that holds its name beside the members of its schema.  Within
fields the object form of a kind, `{"<kind>": null}`, may hold an empty object too;
`nested` says that a schema stands within a field.
-/

namespace TableFeed.Schema

/-- The members of a schema in the order of the array form. -/
def memberNames : List String :=
  ["type", "optional", "name", "version", "doc", "default", "parameters", "fields", "items",
    "keys", "values"]

/-! ## Members that are no schemas -/

/-- A kind: its name, or an object with the name as its only key. -/
def readKind? (nested : Bool) : Json → Option Kind
  | .string name => Kind.ofWireName? name
  | .object [(name, .null)] => Kind.ofWireName? name
  | .object [(name, .object [])] => if nested then Kind.ofWireName? name else none
  | _ => none

/-- A truth value, false when it is not there. -/
def readFlag? : Option Json → Option Bool
  | none => some false
  | some (.bool b) => some b
  | some _ => none

/-- A text that may be missing. -/
def readText? : Option Json → Option (Option String)
  | none => some none
  | some .null => some none
  | some (.string text) => some (some text)
  | some _ => none

/-- A whole number of 32 bits. -/
def int32? : Number → Option Int32
  | .whole n =>
    if -(twoTo 31 : Int) ≤ n.value ∧ n.value < twoTo 31 then some (Int32.ofInt n.value) else none
  | .real _ => none

/-- A whole number of 32 bits that may be missing. -/
def readVersion? : Option Json → Option (Option Int32)
  | none => some none
  | some .null => some none
  | some (.number n) => (int32? n).map some
  | some _ => none

/-- Text parameters. -/
def readTexts? : List (String × Json) → Option (List (String × String))
  | [] => some []
  | (key, .string value) :: rest => (readTexts? rest).map ((key, value) :: ·)
  | _ => none

/-- Parameters, none when they are not there. -/
def readParameters? : Option Json → Option (SortedMap String)
  | none => some .empty
  | some (.object members) => (readTexts? members).map .ofList
  | some _ => none

/-- A default, none when it is not there. -/
def readDefault? (value : Option Json) : Option (Option Json) :=
  match Json.present? value with
  | none => some none
  | some value => value.resolve?.map some

/-- The schema of its parts; `member` finds the members that are no schemas. -/
def ofParts? (nested : Bool) (member : String → Option Json) (fields : List (String × Schema))
    (items keys values : Option Schema) : Option Schema := do
  let kind ← readKind? nested (← member "type")
  let optional ← readFlag? (member "optional")
  let name ← readText? (member "name")
  let version ← readVersion? (member "version")
  let doc ← readText? (member "doc")
  let default ← readDefault? (member "default")
  let parameters ← readParameters? (member "parameters")
  return ⟨kind, optional, name, version, doc, default, parameters, fields, items, keys, values⟩

/-- Members found by their place. -/
def memberAt (items : List Json) (name : String) : Option Json :=
  items[memberNames.idxOf name]?

/-! ## Schemas -/

mutual

/-- A schema from a value. -/
def read? (nested : Bool) : Json → Option Schema
  | .object members => do
    let fields ← readFieldsMember? members
    let items ← readPartMember? nested "items" members
    let keys ← readPartMember? nested "keys" members
    let values ← readPartMember? nested "values" members
    ofParts? nested (List.lookup · members) fields items keys values
  | .array places => do
    let fields ← readFieldsAt? 7 places
    let items ← readPartAt? nested 8 places
    let keys ← readPartAt? nested 9 places
    let values ← readPartAt? nested 10 places
    if memberNames.length < places.length then none
    else ofParts? nested (memberAt places) fields items keys values
  | _ => none
termination_by structural value => value

/-- The schema under a key; null is none. -/
def readPartMember? (nested : Bool) (key : String) :
    List (String × Json) → Option (Option Schema)
  | [] => some none
  | (name, value) :: rest =>
    if name = key then
      if value.isNull then some none else (read? nested value).map some
    else readPartMember? nested key rest
termination_by structural members => members

/-- The schema at a place; null is none. -/
def readPartAt? (nested : Bool) (place : Nat) : List Json → Option (Option Schema)
  | [] => some none
  | value :: rest =>
    match place with
    | 0 => if value.isNull then some none else (read? nested value).map some
    | place + 1 => readPartAt? nested place rest
termination_by structural values => values

/-- The fields under their key. -/
def readFieldsMember? : List (String × Json) → Option (List (String × Schema))
  | [] => some []
  | (name, value) :: rest => if name = "fields" then readFields? value else readFieldsMember? rest
termination_by structural members => members

/-- The fields at a place. -/
def readFieldsAt? (place : Nat) : List Json → Option (List (String × Schema))
  | [] => some []
  | value :: rest =>
    match place with
    | 0 => readFields? value
    | place + 1 => readFieldsAt? place rest
termination_by structural values => values

/-- Fields from an array. -/
def readFields? : Json → Option (List (String × Schema))
  | .array items => readFieldItems? items
  | _ => none
termination_by structural value => value

/-- Fields from items. -/
def readFieldItems? : List Json → Option (List (String × Schema))
  | [] => some []
  | item :: rest => do
    let field ← readField? item
    let others ← readFieldItems? rest
    return field :: others
termination_by structural items => items

/-- A field from an object that holds its name and the members of its schema. -/
def readField? : Json → Option (String × Schema)
  | .object members => do
    let name ← match members.lookup "field" with
      | some (.string name) => some name
      | _ => none
    let fields ← readFieldsMember? members
    let items ← readPartMember? true "items" members
    let keys ← readPartMember? true "keys" members
    let values ← readPartMember? true "values" members
    let schema ← ofParts? true (List.lookup · members) fields items keys values
    return (name, schema)
  | _ => none
termination_by structural value => value

end

/-- The schema that a value describes. -/
def ofJson? (value : Json) : Option Schema :=
  read? false value

end TableFeed.Schema
