import TableFeed.Config.Basic
import TableFeed.Json.Record
import TableFeed.Shape

/-!
# Reading configurations

A configuration is read member by member.  The first member at fault decides the
error; of the faults only one in the compact topic map is told apart.  Name and
database must be there, every other option has a default.
-/

namespace TableFeed.Config

open Json

/-- The members of a delete sign. -/
def deleteSignShapes : List (String × Shape) :=
  [("field", .text), ("true_value", .text), ("false_value", .text)]

/-- The options, in the order of the array form. -/
def memberShapes : List (String × Shape) :=
  [("name", .text), ("topics", .list .text), ("topics_regex", .optionalText), ("database", .text),
    ("converter_mode", .choice), ("schema_evolution", .choice),
    ("delete_sign", .record deleteSignShapes), ("line_separator", .text),
    ("topic2table", .compact)]

/-- The names of the options. -/
def memberNames : List String :=
  memberShapes.map Prod.fst

/-- A delete sign; what it does not say is as by default. -/
def readDeleteSign? (value : Json) : Option DeleteSign := do
  let members ← record? (deleteSignShapes.map Prod.fst) value
  let field ← memberOr? DeleteSign.default.field asText? members "field"
  let trueValue ← memberOr? DeleteSign.default.trueValue asText? members "true_value"
  let falseValue ← memberOr? DeleteSign.default.falseValue asText? members "false_value"
  return ⟨field, trueValue, falseValue⟩

/-- A topic map: nothing, a map from topics to tables, or the compact text of one. -/
def readTopicMap (value : Json) : Except ConfigError (SortedMap String) :=
  match value with
  | .null => .ok .empty
  | .string text =>
    if Text.isBlankText text then .ok .empty else (TopicMap.parse text).mapError .topicMap
  | value =>
    match map? asText? value with
    | some entries => .ok (.ofList entries)
    | none => .error .malformed

/-- A configuration of which not every member has been read. -/
structure Draft where
  /-- The name, once it is read. -/
  name : Option String
  /-- The database, once it is read. -/
  database : Option String
  /-- All other options, as read or as by default. -/
  rest : Config

/-- Before any member is read. -/
def Draft.initial : Draft :=
  ⟨none, none, minimal "" ""⟩

/-- The configuration of a draft in which all that must be there is. -/
def Draft.finish (d : Draft) : Except ConfigError Config :=
  match d.name, d.database with
  | some name, some database => .ok { d.rest with name := name, database := database }
  | _, _ => .error .malformed

/-- A value that must not be missing. -/
def orMalformed {β : Type} (value : Option β) : Except ConfigError β :=
  value.elim (.error .malformed) .ok

/-- The draft with one more member read. -/
def Draft.set (d : Draft) (member : String × Json) : Except ConfigError Draft := do
  let value := member.2
  match member.1 with
  | "name" => return { d with name := some (← orMalformed (asText? value)) }
  | "topics" => return { d with rest.topics := ← orMalformed (list? asText? value) }
  | "topics_regex" => return { d with rest.topicsRegex := ← orMalformed (optional? asText? value) }
  | "database" => return { d with database := some (← orMalformed (asText? value)) }
  | "converter_mode" =>
    return { d with rest.mode := ← orMalformed ((asChoice? value).bind Mode.ofName?) }
  | "schema_evolution" =>
    return { d with rest.evolution := ← orMalformed ((asChoice? value).bind Evolution.ofName?) }
  | "delete_sign" => return { d with rest.deleteSign := ← orMalformed (readDeleteSign? value) }
  | "line_separator" => return { d with rest.lineSeparator := ← orMalformed (asText? value) }
  | "topic2table" => return { d with rest.topicTables := ← readTopicMap value }
  | _ => return d

/-- The configuration that a value describes.  A member at fault is told before items that are too
many. -/
def read (value : Json) : Except ConfigError Config :=
  match value.fields? memberNames with
  | none => .error .malformed
  | some members => do
    let draft ← members.foldlM Draft.set Draft.initial
    if value.fits memberNames then draft.finish else throw .malformed

end TableFeed.Config
