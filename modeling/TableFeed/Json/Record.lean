import TableFeed.Json.Basic

/-!
# Records in JSON values

A record is written as an object with named members or as an array with its members
in order.  `record?` gives the named members either way.  Members with names that
the record does not have are passed over, and a name that comes twice is a fault.
An array may end early, but it may not have more items than the record has names.
-/

namespace TableFeed.Json

/-! ## Plain values -/

/-- The text of a string. -/
def asText? : Json → Option String
  | .string text => some text
  | _ => none

/-- A name among fixed ones: a string, or an object with the name as its only key and null as its
value. -/
def asChoice? : Json → Option String
  | .string text => some text
  | .object [(name, .null)] => some name
  | _ => none

/-- The items of an array, each read by `read`. -/
def list? {β : Type} (read : Json → Option β) : Json → Option (List β)
  | .array items => items.mapM read
  | _ => none

/-- The members of an object, each read by `read`. -/
def map? {β : Type} (read : Json → Option β) : Json → Option (List (String × β))
  | .object members =>
    members.mapM fun member => (read member.2).map fun value => (member.1, value)
  | _ => none

/-- A value that may be null. -/
def optional? {β : Type} (read : Json → Option β) (value : Json) : Option (Option β) :=
  if value.isNull then some none else (read value).map some

/-! ## Records -/

/-- The members of a record with their names, in the order of the value.  Items of an array beyond
the names are left out. -/
def fields? (names : List String) : Json → Option (List (String × Json))
  | .object members =>
    let known := members.filter fun member => names.contains member.1
    if (known.map Prod.fst).Nodup then some known else none
  | .array items => some (names.zip items)
  | _ => none

/-- Whether a value has no more items than a record has names. -/
def fits (names : List String) : Json → Bool
  | .array items => items.length ≤ names.length
  | _ => true

/-- The members of a record with their names; none when the value is not exactly one. -/
def record? (names : List String) (value : Json) : Option (List (String × Json)) :=
  if value.fits names then value.fields? names else none

/-- A member read by `read`, or a default when it is not there. -/
def memberOr? {β : Type} (default : β) (read : Json → Option β) (members : List (String × Json))
    (name : String) : Option β :=
  match members.lookup name with
  | some value => read value
  | none => some default

/-- A member read by `read`, which must be there. -/
def member? {β : Type} (read : Json → Option β) (members : List (String × Json))
    (name : String) : Option β :=
  (members.lookup name).bind read

end TableFeed.Json
