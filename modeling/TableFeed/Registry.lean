import TableFeed.ValueType.Plain
import TableFeed.ValueType.Scaled
import TableFeed.ValueType.Temporal

/-!
# The type registry

A registry finds the value type of a schema: by the logical name first, and by the
kind when nothing is registered under the name.  A type registered later takes the
place of an earlier one with the same key.
-/

namespace TableFeed

/-- Value types by key, the latest registered first. -/
structure Registry where
  /-- The types, each under one of its keys. -/
  entries : List (String × ValueType)

namespace Registry

/-- The registry without types. -/
def empty : Registry :=
  ⟨[]⟩

/-- The registry with a type under all of its keys. -/
def register (registry : Registry) (type : ValueType) : Registry :=
  ⟨type.keys.map (fun key => (key, type)) ++ registry.entries⟩

/-- The type registered under a key. -/
def get? (registry : Registry) (key : String) : Option ValueType :=
  registry.entries.lookup key

/-- The type of the values of a schema. -/
def resolve? (registry : Registry) (s : Schema) : Option ValueType :=
  (s.name.bind registry.get?).or (registry.get? s.kind.registryKey)

/-- The types that every connector knows.  Structs without a logical type have none. -/
def builtinTypes : List ValueType :=
  open ValueType in
  [int8, int16, int32, int64, float32, float64, boolean, string, bytes, container, decimal,
    variableScaleDecimal, date, time, microTime, nanoTime, timestamp, microTimestamp,
    nanoTimestamp, zonedTimestamp, json, text]

/-- The registry of the types that every connector knows. -/
def builtin : Registry :=
  builtinTypes.foldl register empty

end Registry

end TableFeed
