import TableFeed.Config.TopicMap
import TableFeed.Json.Document

/-!
# Configuration

What a connector is told: where its records come from, which database they go to,
how structured values are converted, whether tables may be altered, how deletions
are marked and which table each topic belongs to.

`Config.problems` checks every option and reports all that is wrong at once.
`Config.tableFor` names the table of a topic.
-/

namespace TableFeed

/-- How structured values are converted. -/
inductive Mode where
  /-- Each value is rendered as plain JSON. -/
  | normal
  /-- Change events become rows, and the tables keep up with their fields. -/
  | changeEvents
deriving DecidableEq, Repr

/-- The name of a mode. -/
def Mode.name : Mode → String
  | .normal => "normal"
  | .changeEvents => "debezium_ingestion"

/-- The mode with a name. -/
def Mode.ofName? (name : String) : Option Mode :=
  [normal, changeEvents].find? fun mode => mode.name == name

/-- What is done about fields for which a table has no column. -/
inductive Evolution where
  /-- They are an error. -/
  | disabled
  /-- Columns are added for them. -/
  | basic
deriving DecidableEq, Repr

/-- The name of a way of evolution. -/
def Evolution.name : Evolution → String
  | .disabled => "none"
  | .basic => "basic"

/-- The way of evolution with a name. -/
def Evolution.ofName? (name : String) : Option Evolution :=
  [disabled, basic].find? fun evolution => evolution.name == name

/-- The column that marks deletions. -/
structure DeleteSign where
  /-- The name of the column. -/
  field : String
  /-- Its value for a deletion. -/
  trueValue : String
  /-- Its value for any other row. -/
  falseValue : String
deriving DecidableEq, Repr

/-- The delete sign that is used when none is given. -/
def DeleteSign.default : DeleteSign :=
  ⟨"__DORIS_DELETE_SIGN__", "1", "0"⟩

/-- The configuration of a connector. -/
structure Config where
  /-- The name of the connector. -/
  name : String
  /-- The topics to read. -/
  topics : List String
  /-- A pattern of topics to read, in the place of a list. -/
  topicsRegex : Option String
  /-- The database of the destination. -/
  database : String
  /-- How structured values are converted. -/
  mode : Mode
  /-- What is done about missing columns. -/
  evolution : Evolution
  /-- The column that marks deletions. -/
  deleteSign : DeleteSign
  /-- The text between two rows of one payload. -/
  lineSeparator : String
  /-- The tables of topics that do not follow their name. -/
  topicTables : SortedMap String
deriving DecidableEq

/-- Why no configuration can be used. -/
inductive ConfigError where
  /-- The file cannot be read. -/
  | unreadable
  /-- A variable of the environment is used and not set. -/
  | unsetVariable (name : String)
  /-- The text does not describe a configuration. -/
  | malformed
  /-- The compact topic map is at fault. -/
  | topicMap (fault : TopicMap.Fault)
  /-- A topic has no table. -/
  | noTable (topic : String)
  /-- Options have values that cannot be used. -/
  | invalid (problems : List String)
deriving DecidableEq, Repr

/-- The wording of a configuration error. -/
def ConfigError.message : ConfigError → String
  | .unreadable => "cannot read configuration"
  | .unsetVariable name => "error looking key '" ++ name ++ "' up: environment variable not found"
  | .malformed => "malformed configuration"
  | .topicMap fault => fault.message
  | .noTable topic => "failed to get table name from topic " ++ Text.quoted topic
  | .invalid problems =>
    "connector configuration is missing required values or has wrong input values: "
      ++ Text.join "; " problems

namespace Config

/-- The separator that is used when none is given. -/
def defaultSeparator : String := "\n"

/-- A configuration with a name and a database and everything else as by default. -/
def minimal (name database : String) : Config where
  name := name
  topics := []
  topicsRegex := none
  database := database
  mode := .normal
  evolution := .disabled
  deleteSign := .default
  lineSeparator := defaultSeparator
  topicTables := .empty

/-! ## Checking -/

/-- Whether a character is an ASCII letter or digit. -/
def isAlphanumeric (c : Char) : Bool :=
  c.isAlpha || c.isDigit

/-- Whether a text can name a connector. -/
def isConnectorName (name : String) : Bool :=
  name ≠ "" && name.toList.all fun c => isAlphanumeric c || c = '_' || c = '-'

/-- What is wrong with the choice of topics. -/
def topicProblems (c : Config) : List String :=
  let hasRegex := c.topicsRegex.any (· ≠ "")
  match c.topics.isEmpty, hasRegex with
  | true, false => ["topics or topics_regex cannot be empty"]
  | false, true => ["topics and topics_regex cannot be set at the same time"]
  | _, _ => []

/-- What is wrong with one entry of the topic map. -/
def entryProblems (entry : String × String) : List String :=
  if Text.isBlankText entry.1 || Text.isBlankText entry.2 then
    ["topic2table entry " ++ Text.quoted entry.1 ++ ":" ++ Text.quoted entry.2 ++ " is invalid"]
  else []

/-- Everything that is wrong with a configuration. -/
def problems (c : Config) : List String :=
  (if isConnectorName c.name then []
    else ["name " ++ Text.quoted c.name ++ " is empty or invalid, expected [A-Za-z0-9_-]+"])
  ++ c.topicProblems
  ++ (if Text.isBlankText c.database then ["database cannot be empty"] else [])
  ++ (if Text.isBlankText c.deleteSign.field then ["delete_sign.field cannot be empty"] else [])
  ++ (if c.lineSeparator = "" then ["line_separator cannot be empty"] else [])
  ++ c.topicTables.entries.flatMap entryProblems

/-- Refuses a configuration that anything is wrong with. -/
def validate (c : Config) : Except ConfigError Unit :=
  if c.problems = [] then .ok () else .error (.invalid c.problems)

/-! ## Tables of topics -/

/-- Whether a text is a letter followed by letters, digits and underscores. -/
def isTableIdentifier (name : String) : Bool :=
  match name.toList with
  | [] => false
  | first :: rest => first.isAlpha && rest.all fun c => isAlphanumeric c || c = '_'

/-- The part of a dotted topic after its last dot; none when it is empty or there is no dot. -/
def lastSegment? (topic : String) : Option String :=
  match Text.split '.' topic with
  | [] => none
  | [_] => none
  | segments => segments.getLast?.filter (· ≠ "")

/-- The table of a topic: as the topic map says, else the topic itself when it is an identifier,
else the last segment of a dotted topic. -/
def tableFor (c : Config) (topic : String) : Except ConfigError String :=
  if topic = "" then .error (.noTable topic)
  else
    match c.topicTables.get? topic with
    | some table => .ok table
    | none =>
      if isTableIdentifier topic then .ok topic
      else
        match lastSegment? topic with
        | some table => .ok table
        | none => .error (.noTable topic)

/-! ## Writing -/

/-- A configuration as a document. -/
def toDocument (c : Config) : Document :=
  .record [
    ("name", .string c.name),
    ("topics", .list (c.topics.map .string)),
    ("topics_regex", c.topicsRegex.elim .null .string),
    ("database", .string c.database),
    ("converter_mode", .string c.mode.name),
    ("schema_evolution", .string c.evolution.name),
    ("delete_sign", .record [
      ("field", .string c.deleteSign.field),
      ("true_value", .string c.deleteSign.trueValue),
      ("false_value", .string c.deleteSign.falseValue)]),
    ("line_separator", .string c.lineSeparator),
    ("topic2table", .record (c.topicTables.entries.map fun entry => (entry.1, .string entry.2)))]

end Config

end TableFeed
