import TableFeed.Json.Document
import TableFeed.Schema.Basic
import TableFeed.Schema.Error
import TableFeed.Text.Blank

/-!
# Structured values

A `Struct` is a JSON object that was checked against a struct schema.
`Struct.ofJson` checks it: every declared field, through nested structs and
through the items of arrays, is there with a kind that its schema allows, or may
be missing.  Members that no field declares are kept but never read.

A field is read in two ways.  `get?` puts the default of the schema in the place
of null, `raw?` leaves null as it is.

`Struct.render` writes a struct without its schema: the declared fields in their
order, decimals as exact numbers.
-/

namespace TableFeed

/-- The logical name of decimals with a scale in the schema. -/
def Decimal.logicalName : String := "org.apache.kafka.connect.data.Decimal"

/-- The parameter that holds the scale of a decimal. -/
def Decimal.scaleParameter : String := "scale"

namespace Schema

/-- The scale of a decimal's schema: zero when the parameter is not there. -/
def decimalScale (s : Schema) : Except Decimal.Fault Nat :=
  match s.parameter? Decimal.scaleParameter with
  | none => .ok 0
  | some raw =>
    match Text.readUnsigned (twoTo 32) (Text.trim raw) with
    | some scale => .ok scale
    | none => .error (.invalidScale raw)

/-- Whether a missing value is allowed. -/
def allowsMissing (s : Schema) : Bool :=
  s.optional || s.defaultValue.isSome

end Schema

/-! ## Conformance -/

/-- Whether a value that is not null has a kind that a schema of `kind` allows.  Bytes are base64
text, or a number for decimals that are encoded so; maps with keys other than texts arrive as
arrays of pairs. -/
def Kind.allows (kind : Kind) (value : Json) : Bool :=
  match value with
  | .null => false
  | .bool _ => kind = .boolean
  | .number n =>
    if kind.isInteger then n.isWhole else kind = .float32 || kind = .float64 || kind = .bytes
  | .string _ => kind = .string || kind = .bytes
  | .array _ => kind = .array || kind = .map
  | .object _ => kind = .map || kind = .struct

namespace Schema

mutual

/-- Checks the value at a path against a schema, depth first in declaration order. -/
def check (path : String) (value : Option Json) : Schema → Except SchemaError Unit
  | ⟨kind, optional, _, _, _, defaultValue, _, fields, items, _, _⟩ =>
    match Json.present? value with
    | none => if optional || defaultValue.isSome then .ok () else .error (.missingRequired path)
    | some value =>
      if kind.allows value then
        match value with
        | .object members =>
          if kind = .struct then checkFields (fun name => path ++ "." ++ name) members fields
          else .ok ()
        | .array values => if kind = .array then checkItems path values items else .ok ()
        | _ => .ok ()
      else .error (.typeMismatch path kind value.kindName)

/-- Checks the members that fields declare; `pathOf` gives the path of a field. -/
def checkFields (pathOf : String → String) (members : List (String × Json)) :
    List (String × Schema) → Except SchemaError Unit
  | [] => .ok ()
  | (name, s) :: rest =>
    match check (pathOf name) (members.lookup name) s with
    | .error e => .error e
    | .ok () => checkFields pathOf members rest

/-- Checks the items of an array when their schema is known. -/
def checkItems (path : String) (values : List Json) : Option Schema → Except SchemaError Unit
  | none => .ok ()
  | some s =>
    values.zipIdx.forM fun (value, index) =>
      check (path ++ "[" ++ Text.natText index ++ "]") (some value) s

end

end Schema

/-- A JSON object that agrees with a struct schema. -/
structure Struct where
  /-- The schema. -/
  schema : Schema
  /-- The members of the object. -/
  members : List (String × Json)
deriving BEq

namespace Struct

/-- The struct of a payload, or the first disagreement with the schema. -/
def ofJson (schema : Schema) (payload : Json) : Except SchemaError Struct :=
  if schema.kind ≠ .struct then .error (.notAStruct schema.kind)
  else
    match payload with
    | .object members =>
      (Schema.checkFields id members schema.fields).map fun _ => ⟨schema, members⟩
    | other => .error (.typeMismatch (schema.name.getD "") .struct other.kindName)

/-! ## Reading -/

/-- The value of a declared field as it arrived, null when it is not there. -/
def raw? (s : Struct) (name : String) : Option Json :=
  (s.schema.field? name).map fun _ => Json.orNull (s.members.lookup name)

/-- The value of a declared field, with the default of its schema in the place of null. -/
def get? (s : Struct) (name : String) : Option Json :=
  (s.schema.field? name).map fun field =>
    (Json.present? (s.members.lookup name)).getD (Json.orNull field.defaultValue)

/-- The struct in a declared field; none when the field is null. -/
def getStruct? (s : Struct) (name : String) : Except SchemaError (Option Struct) :=
  match s.schema.field? name with
  | none => .error (.unknownField name)
  | some field =>
    match Json.present? (s.members.lookup name) with
    | none => .ok none
    | some value => (Struct.ofJson field value).map some

end Struct

/-! ## Rendering -/

/-- Names the field at which a decimal fault happened, unless one deeper has done so. -/
def SchemaError.atField (name : String) : SchemaError → SchemaError
  | .decimal field fault => .decimal (if field = "" then name else field) fault
  | other => other

namespace Schema

/-- A decimal as an exact number. -/
def renderDecimal (s : Schema) (value : Json) : Except Decimal.Fault Document := do
  let scale ← s.decimalScale
  let digits ← Decimal.decode value scale
  match Json.Reader.numberText? digits with
  | some (_, []) => return .decimal digits
  | _ => throw .notANumber

mutual

/-- A value without its schema. -/
def render (value : Json) : Schema → Except SchemaError Document
  | s@⟨kind, _, name, _, _, _, _, fields, items, _, _⟩ =>
    match value with
    | .object members =>
      if kind = .struct then (renderFields members fields []).map .record
      else .ok (.value value)
    | .array values => if kind = .array then renderItems values items else .ok (.value value)
    | .string _ =>
      if kind = .bytes ∧ name = some Decimal.logicalName then
        (s.renderDecimal value).mapError (.decimal "")
      else .ok (.value value)
    | _ => .ok (.value value)

/-- The declared members in order after those that are `done`; a name that comes again keeps its
first place and has its last value. -/
def renderFields (members : List (String × Json)) :
    List (String × Schema) → List (String × Document) →
      Except SchemaError (List (String × Document))
  | [], done => .ok done
  | (name, s) :: rest, done =>
    match render (Json.orNull (members.lookup name)) s with
    | .error e => .error (e.atField name)
    | .ok document => renderFields members rest (Entries.put name document done)

/-- The items of an array, each by their schema when it is known. -/
def renderItems (values : List Json) : Option Schema → Except SchemaError Document
  | none => .ok (.value (.array values))
  | some s => (values.mapM fun value => render value s).map .list

end

end Schema

namespace Struct

/-- The declared fields of a struct as a document. -/
def render (s : Struct) : Except SchemaError Document :=
  (Schema.renderFields s.members s.schema.fields []).map .record

/-- The compact text of the declared fields. -/
def text (s : Struct) : Except SchemaError String :=
  s.render.map Document.text

end Struct

end TableFeed
