import TableFeed.Number.Binary64

/-!
# JSON values

The dynamic values that payloads, keys and defaults are made of.  A number is
either a whole number that fits 64 bits, signed or unsigned, or a finite binary64
number; which of the two it is depends on how it was written and is never changed
afterwards.  An object is a list of members.  Every reader in this library keeps
the members in increasing order of their keys and the last of two with one key.
-/

namespace TableFeed

/-! ## Numbers -/

/-- A whole number of 64 bits, signed or unsigned. -/
structure Whole where
  /-- The number. -/
  value : Int
  /-- It is not below the signed range. -/
  lower : -(twoTo 63 : Int) ≤ value
  /-- It is not above the unsigned range. -/
  upper : value < twoTo 64
deriving DecidableEq

/-- The whole number with a value, when it fits. -/
def Whole.ofInt? (value : Int) : Option Whole :=
  if h : -(twoTo 63 : Int) ≤ value ∧ value < twoTo 64 then some ⟨value, h.1, h.2⟩ else none

theorem Whole.ofInt?_value (n : Whole) : Whole.ofInt? n.value = some n := by
  rw [Whole.ofInt?, dif_pos ⟨n.lower, n.upper⟩]

/-- A JSON number. -/
inductive Number where
  /-- Written without fraction and exponent, and fitting 64 bits. -/
  | whole (n : Whole)
  /-- Any other. -/
  | real (x : Binary64)
deriving DecidableEq

namespace Number

/-- The number as a signed whole number of 64 bits, when it is one. -/
def int64? : Number → Option Int
  | .whole n => if n.value < twoTo 63 then some n.value else none
  | .real _ => none

/-- The number as an unsigned whole number of 64 bits, when it is one. -/
def nat64? : Number → Option Nat
  | .whole n => if 0 ≤ n.value then some n.value.toNat else none
  | .real _ => none

/-- Whether the number is a whole number of 64 bits. -/
def isWhole : Number → Bool
  | .whole _ => true
  | .real _ => false

end Number

/-! ## Values -/

/-- A JSON value. -/
inductive Json where
  | null
  | bool (b : Bool)
  | number (n : Number)
  | string (text : String)
  | array (items : List Json)
  | object (members : List (String × Json))
deriving BEq, Inhabited

namespace Json

/-- The name of a value's kind, as messages give it. -/
def kindName : Json → String
  | .null => "null"
  | .bool _ => "boolean"
  | .number _ => "number"
  | .string _ => "string"
  | .array _ => "array"
  | .object _ => "object"

/-- Whether a value is null. -/
def isNull : Json → Bool
  | .null => true
  | _ => false

/-- Null for a member that is not there. -/
def orNull (value : Option Json) : Json :=
  value.getD .null

/-- An absent value and null are both no value. -/
def present? : Option Json → Option Json
  | none => none
  | some .null => none
  | some value => some value

theorem isNull_iff {value : Json} : value.isNull = true ↔ value = .null := by
  cases value <;> simp [isNull]

end Json

end TableFeed
