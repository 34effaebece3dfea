import TableFeed.Entries
import TableFeed.Error
import TableFeed.Record.Basic
import TableFeed.Registry
import TableFeed.Table.Column

/-!
# Events

An event is what a structured record says about one row: its fields, each with its
value type, and the row before and after a change.

A record whose schema is named an envelope carries the two images in its fields
`before` and `after`; any other structured record is itself the image after.  The
fields are those of the image's schema in their order, then the fields of the key
that the image does not carry.  A field of the image is a key when the key's schema
is a struct that has it.

An event has at least one image.  It is a deletion when it has only the one before.
-/

namespace TableFeed

/-- A field of an event. -/
structure EventField where
  /-- The name. -/
  name : String
  /-- The schema. -/
  schema : Schema
  /-- The type of its values. -/
  type : ValueType
  /-- Whether it belongs to the key. -/
  isKey : Bool

namespace EventField

/-- The column that a table needs for the field. -/
def column (field : EventField) : NewColumn :=
  ⟨field.name, field.type.columnType field.schema, field.schema.doc⟩

/-- The text of a field in diagnostics. -/
def debugText (field : EventField) : String :=
  let flag (b : Bool) := if b then "true" else "false"
  "FieldDescriptor \x7b name: " ++ Text.quoted field.name ++ ", type: "
    ++ Text.quoted field.type.name ++ ", optional: " ++ flag field.schema.optional
    ++ ", is_key: " ++ flag field.isKey ++ " \x7d"

/-- Two fields are the same when their names are. -/
instance : BEq EventField where
  beq left right := left.name == right.name

end EventField

/-- The row changes that a record tells of. -/
structure Event where
  /-- The topic of the record. -/
  topic : String
  /-- The fields by name, the last of two with one name. -/
  byName : List (String × EventField)
  /-- The names of the fields in order. -/
  fieldNames : List String
  /-- The names of the row's fields that belong to no key, in order. -/
  nonKeyNames : List String
  /-- The row before the change. -/
  before : Option Struct
  /-- The row after the change. -/
  after : Option Struct

namespace Event

/-- The field with a name. -/
def field? (event : Event) (name : String) : Option EventField :=
  event.byName.lookup name

/-- The fields in order. -/
def fields (event : Event) : List EventField :=
  event.fieldNames.filterMap event.field?

/-- Whether the row is gone after the change. -/
def isDelete (event : Event) : Bool :=
  event.before.isSome && event.after.isNone

/-! ## From records -/

/-- What the name of an envelope's schema holds. -/
def envelopeMarker : String := "Envelope"

/-- The images of a struct and the schema of the row. -/
structure Images where
  /-- The row before the change. -/
  before : Option Struct
  /-- The row after the change. -/
  after : Option Struct
  /-- The schema of the row. -/
  rowSchema : Schema

/-- The images of a struct. -/
def images (s : Struct) : Except DecodeCause Images :=
  if s.schema.nameContains envelopeMarker then
    match (s.schema.field? "after").or (s.schema.field? "before") with
    | none => .error .noImageField
    | some rowSchema => do
      let before ← (s.getStruct? "before").mapError .image
      let after ← (s.getStruct? "after").mapError .image
      return ⟨before, after, rowSchema⟩
  else .ok ⟨none, some s, s.schema⟩

/-- A field with its value type. -/
def resolve (registry : Registry) (isKey : Bool) (field : String × Schema) :
    Except DecodeCause EventField :=
  match registry.resolve? field.2 with
  | some type => .ok ⟨field.1, field.2, type, isKey⟩
  | none => .error (.unsupportedType field.1 field.2.kind field.2.name)

/-- Fields with their value types; `isKey` tells which belong to the key. -/
def resolveAll (registry : Registry) (isKey : String → Bool) (fields : List (String × Schema)) :
    Except DecodeCause (List EventField) :=
  fields.mapM fun field => resolve registry (isKey field.1) field

/-- The names of the key's fields, when its schema is a struct. -/
def keyNames (keySchema : Option Schema) : List String :=
  match keySchema with
  | some schema => if schema.kind = .struct then schema.fieldNames else []
  | none => []

/-- The fields of the key that the row does not carry. -/
def extraFields (keySchema : Option Schema) (rowSchema : Schema) : List (String × Schema) :=
  match keySchema with
  | some schema => schema.fields.filter fun field => !rowSchema.fieldNames.contains field.1
  | none => []

/-- The event of images. -/
def ofImages (registry : Registry) (topic : String) (keySchema : Option Schema) (images : Images) :
    Except DecodeCause Event := do
  if images.rowSchema.kind ≠ .struct then
    throw .rowNotStruct
  let isKey name := (keyNames keySchema).contains name
  let rowFields ← resolveAll registry isKey images.rowSchema.fields
  let keyFields ← resolveAll registry (fun _ => true) (extraFields keySchema images.rowSchema)
  if images.before.isNone ∧ images.after.isNone then
    throw .noImage
  let fields := rowFields ++ keyFields
  return {
    topic := topic
    byName := Entries.ofPairs (fields.map fun field => (field.name, field))
    fieldNames := fields.map EventField.name
    nonKeyNames := (rowFields.filter fun field => !field.isKey).map EventField.name
    before := images.before
    after := images.after }

/-- The cause why a record is no event, or its event. -/
def decode (registry : Registry) (record : Record) : Except DecodeCause Event :=
  match record.value with
  | .struct s => do ofImages registry record.topic record.keySchema (← images s)
  | other => .error (.notStructured other.shape)

/-- The event of a record. -/
def ofRecord (registry : Registry) (record : Record) : Except TransformError Event :=
  (decode registry record).mapError (.decode record.topic record.offset)

end Event

end TableFeed
