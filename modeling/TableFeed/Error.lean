import TableFeed.Config.Basic
import TableFeed.Table.Catalog
import TableFeed.ValueType.Basic

/-!
# Errors of a transformation

Why a record did not become a payload.  Every error names the topic or the table it
happened at, so that its text can be acted on by itself.
-/

namespace TableFeed

/-- Why a record cannot be taken apart. -/
inductive DecodeCause where
  /-- The value is not structured. -/
  | notStructured (shape : String)
  /-- A change event declares no image. -/
  | noImageField
  /-- An image does not agree with its schema. -/
  | image (error : SchemaError)
  /-- The schema of the row is not a struct. -/
  | rowNotStruct
  /-- No value type is known for a field. -/
  | unsupportedType (field : String) (kind : Kind) (name : Option String)
  /-- A change event has no image. -/
  | noImage
  /-- No image was chosen for the row. -/
  | noRowImage
  /-- A field of the row has no description. -/
  | unknownField (field : String)
  /-- The value of a field cannot be converted. -/
  | conversion (field : String) (error : TypeError)
  /-- A value that comes with a schema is null. -/
  | nullWithSchema (shape : String)
deriving DecidableEq, Repr

/-- The wording of a cause. -/
def DecodeCause.message : DecodeCause → String
  | .notStructured shape => "expected a struct value, found " ++ shape
  | .noImageField => "envelope has neither before nor after field"
  | .image error => error.message
  | .rowNotStruct => "row schema is not a struct"
  | .unsupportedType field kind name =>
    "field " ++ field ++ " has unsupported type " ++ kind.registryKey
      ++ name.elim "" fun name => " (" ++ name ++ ")"
  | .noImage => "change event has neither before nor after image"
  | .noRowImage => "change event has no row image"
  | .unknownField field => "no descriptor for field " ++ field
  | .conversion field error => "field " ++ field ++ ": " ++ error.message
  | .nullWithSchema shape => shape ++ " value carries a schema"

/-- Why a record did not become a payload. -/
inductive TransformError where
  /-- The record cannot be taken apart. -/
  | decode (topic : String) (offset : Int64) (cause : DecodeCause)
  /-- The record is of a category that is not supported. -/
  | unsupportedCategory (topic category : String)
  /-- The topic has no table. -/
  | tableName (topic : String) (error : ConfigError)
  /-- The table does not exist. -/
  | missingTable (database table : String)
  /-- The table lacks columns and may not be altered. -/
  | evolutionDisabled (table : String) (fields : List String)
  /-- A column could not be added. -/
  | alteration (column table : String) (error : CatalogError)
  /-- The catalog could not be asked about a table. -/
  | catalog (table : String) (error : CatalogError)
  /-- A structured value cannot be written. -/
  | dataFormat (topic : String) (error : SchemaError)
deriving DecidableEq, Repr

namespace TransformError

/-- The name of an error's kind. -/
def kind : TransformError → String
  | .decode .. => "decode"
  | .unsupportedCategory .. => "unsupported_category"
  | .tableName .. => "table_name"
  | .missingTable .. => "missing_table"
  | .evolutionDisabled .. => "schema_evolution_disabled"
  | .alteration .. => "schema_change"
  | .catalog .. => "catalog"
  | .dataFormat .. => "data_format"

/-- The wording of an error. -/
def message : TransformError → String
  | .decode topic offset cause =>
    "failed to decode record from topic " ++ topic ++ " at offset " ++ Text.intText offset.toInt
      ++ ": " ++ cause.message
  | .unsupportedCategory topic category =>
    "unsupported record category " ++ category ++ " on topic " ++ topic
      ++ "; exclude the schema change topic from \x60topics\x60 or \x60topics_regex\x60"
  | .tableName topic error =>
    "cannot resolve destination table for topic " ++ topic ++ ": " ++ error.message
  | .missingTable database table =>
    "table " ++ database ++ "." ++ table ++ " does not exist, please create it manually"
  | .evolutionDisabled table fields =>
    "cannot alter table " ++ table ++ " because schema evolution is disabled (missing columns: "
      ++ Text.join ", " fields ++ ")"
  | .alteration column table error =>
    "failed to add column " ++ column ++ " to table " ++ table ++ ": " ++ error.message
  | .catalog table error =>
    "failed to read catalog for table " ++ table ++ ": " ++ error.message
  | .dataFormat topic error =>
    "failed to process struct record from topic " ++ topic ++ ": " ++ error.message

end TransformError

end TableFeed
