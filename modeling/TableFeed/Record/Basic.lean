import TableFeed.Schema.Reader
import TableFeed.Schema.Struct

/-!
# Records

A record of a topic has a key and a value, each with or without a schema.  The shape
of a value is decided once, when the record is made.

`Record.ofJson` makes a record from converter output.  An object with exactly the
members `schema` and `payload`, the schema not null, is a value with its schema;
anything else is a value without one.
-/

namespace TableFeed

/-- A value of a record by its shape. -/
inductive RecordValue where
  /-- No value. -/
  | null
  /-- A structured value with its schema. -/
  | struct (s : Struct)
  /-- Items without a schema. -/
  | list (items : List Json)
  /-- Members without a schema. -/
  | map (members : List (String × Json))
  /-- A text, a number or a truth value. -/
  | scalar (value : Json)

namespace RecordValue

/-- The name of a shape. -/
def shape : RecordValue → String
  | .null => "null"
  | .struct _ => "struct"
  | .list _ => "list"
  | .map _ => "map"
  | .scalar _ => "scalar"

/-- Whether there is no value. -/
def isNull : RecordValue → Bool
  | .null => true
  | _ => false

/-- A value without a schema, by its kind. -/
def schemaless : Json → RecordValue
  | .null => .null
  | .array items => .list items
  | .object members => .map members
  | other => .scalar other

end RecordValue

/-- A record of a topic. -/
structure Record where
  /-- The topic. -/
  topic : String
  /-- The partition of the topic. -/
  partition : Int32
  /-- The place in the partition. -/
  offset : Int64
  /-- The schema of the key. -/
  keySchema : Option Schema
  /-- The key. -/
  key : RecordValue
  /-- The schema of the value. -/
  valueSchema : Option Schema
  /-- The value. -/
  value : RecordValue

namespace Record

/-- A record without a key. -/
def ofValue (topic : String) (partition : Int32) (offset : Int64) (valueSchema : Option Schema)
    (value : RecordValue) : Record :=
  ⟨topic, partition, offset, none, .null, valueSchema, value⟩

/-- The record with a key. -/
def withKey (record : Record) (keySchema : Option Schema) (key : RecordValue) : Record :=
  { record with keySchema := keySchema, key := key }

/-- Whether a record has neither value nor value schema, which marks the end of its key. -/
def isTombstone (record : Record) : Bool :=
  record.value.isNull && record.valueSchema.isNone

/-! ## Converter output -/

/-- The schema and the payload of a value that comes with its schema. -/
def envelope? : Json → Option (Json × Json)
  | .object members =>
    match members.length, members.lookup "payload", Json.present? (members.lookup "schema") with
    | 2, some payload, some schema => some (schema, payload)
    | _, _, _ => none
  | _ => none

/-- The schema and value of converter output. -/
def decode (raw : Json) : Except SchemaError (Option Schema × RecordValue) :=
  match envelope? raw with
  | none => .ok (none, .schemaless raw)
  | some (schema, payload) =>
    match Schema.ofJson? schema with
    | none => .error .invalidSchema
    | some schema =>
      if payload.isNull then .ok (some schema, .null)
      else if schema.kind = .struct then
        (Struct.ofJson schema payload).map fun s => (some schema, .struct s)
      else .ok (some schema, .schemaless payload)

/-- The record of converter output; of two faults the one in the value is told. -/
def ofJson (topic : String) (partition : Int32) (offset : Int64) (key : Option Json)
    (value : Json) : Except SchemaError Record := do
  let (valueSchema, value) ← decode value
  let (keySchema, key) ← key.elim (.ok (none, .null)) decode
  return ⟨topic, partition, offset, keySchema, key, valueSchema, value⟩

end Record

end TableFeed
