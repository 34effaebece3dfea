import TableFeed.Destination

/-!
# The connector

A connector turns records into payloads.  A structured value is written as plain JSON,
or, when the connector takes change events, becomes the row of an event whose table
has been brought up to its fields.  Items are written one by one with the line
separator between them, members as an object, and a text as it is.

A row holds the fields that belong to no key, and the delete sign.
-/

namespace TableFeed

/-- What a connector is set up with. -/
structure Connector where
  /-- The configuration. -/
  config : Config
  /-- The value types. -/
  registry : Registry

namespace Connector

/-- A connector with the types that every connector knows. -/
def ofConfig (config : Config) : Connector :=
  ⟨config, .builtin⟩

/-! ## Rows -/

/-- The raw value of a field in an image.  A field that is optional does not take the default of
the image's schema. -/
def rawValue (image : Struct) (field : EventField) : Json :=
  Json.orNull (if field.schema.optional then image.raw? field.name else image.get? field.name)

/-- The value of a field in a row. -/
def rowValue (image : Struct) (field : EventField) : Except DecodeCause Json :=
  match field.type.convert field.schema (rawValue image field) with
  | .ok converted => .ok (field.type.rowValue converted)
  | .error error => .error (.conversion field.name error)

/-- The members of a row after those that are `done`. -/
def rowMembers (event : Event) (image : Struct) :
    List String → List (String × Json) → Except DecodeCause (List (String × Json))
  | [], done => .ok done
  | name :: rest, done =>
    match event.field? name with
    | none => .error (.unknownField name)
    | some field =>
      match rowValue image field with
      | .error cause => .error cause
      | .ok value => rowMembers event image rest (Entries.put name value done)

/-- The image that a row is made of. -/
def rowImage (event : Event) : Except DecodeCause Struct :=
  match event.isDelete, event.before, event.after with
  | true, some before, _ => .ok before
  | false, _, some after => .ok after
  | _, _, _ => .error .noRowImage

/-- The row of an event: its members in order, the delete sign among them. -/
def row (sign : DeleteSign) (event : Event) : Except DecodeCause (List (String × Json)) := do
  let image ← rowImage event
  let members ← rowMembers event image event.nonKeyNames []
  let marker := if event.isDelete then sign.trueValue else sign.falseValue
  return Entries.put sign.field (.string marker) members

/-- A row as a document. -/
def rowDocument (members : List (String × Json)) : Document :=
  .record (members.map fun member => (member.1, .value member.2))

/-! ## Payloads -/

/-- What the name of a schema holds when its records tell of changed schemas. -/
def schemaChangeMarker : String := "SchemaChangeValue"

/-- Whether a record tells of a changed schema. -/
def isSchemaChange (record : Record) : Bool :=
  record.valueSchema.any fun schema => schema.nameContains schemaChangeMarker

/-- The event of a record and the table it belongs to. -/
def eventAndTable (c : Connector) (record : Record) : Except TransformError (Event × String) := do
  if isSchemaChange record then
    throw (.unsupportedCategory record.topic schemaChangeMarker)
  let event ← Event.ofRecord c.registry record
  let table ← (c.config.tableFor event.topic).mapError (.tableName record.topic)
  return (event, table)

/-- The row of a record that is a change event, once its table has the columns. -/
def transformEvent (c : Connector) (record : Record) (d : Destination) :
    Except TransformError String × Destination :=
  match c.eventAndTable record with
  | .error error => (.error error, d)
  | .ok (event, table) =>
    match d.ensureColumns c.config.database c.config.evolution table event with
    | (.error error, d) => (.error error, d)
    | (.ok _, d) =>
      match row c.config.deleteSign event with
      | .error cause => (.error (.decode record.topic record.offset cause), d)
      | .ok members => (.ok (rowDocument members).text, d)

/-- The payload of a record with a structured value that is taken as it is. -/
def transformPlain (record : Record) : Except TransformError String :=
  match record.value with
  | .struct s => s.text.mapError (.dataFormat record.topic)
  | other => .error (.decode record.topic record.offset (.nullWithSchema other.shape))

/-- The payload of items. -/
def listPayload (separator : String) (items : List Json) : String :=
  Text.join separator (items.map Json.text)

/-- The payload of a text, a number or a truth value. -/
def scalarPayload : Json → String
  | .string text => text
  | other => other.text

/-- Transforms a record; none for a tombstone, which has no payload. -/
def transform (c : Connector) (record : Record) (d : Destination) :
    Except TransformError (Option String) × Destination :=
  if record.isTombstone then (.ok none, d)
  else
    match record.value with
    | .list items => (.ok (some (listPayload c.config.lineSeparator items)), d)
    | .map members => (.ok (some (Json.object members).text), d)
    | .scalar value => (.ok (some (scalarPayload value)), d)
    | .struct _ | .null =>
      match c.config.mode with
      | .normal => ((transformPlain record).map some, d)
      | .changeEvents =>
        let (result, d) := c.transformEvent record d
        (result.map some, d)

end Connector

end TableFeed
