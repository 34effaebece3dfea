import TableFeed.Config.Environment
import TableFeed.Config.Reader
import TableFeed.Config.Seed
import TableFeed.Text.Utf8
import TableFeed.Yaml.Tree

/-!
# Loading configurations and seeds

A file is read as text, the variables in it are replaced, and the text is read as
YAML.  Each step has its own error; what is wrong inside the YAML is not told apart.
-/

namespace TableFeed

/-- What a file holds where a shape is asked for, after its variables are replaced; `file` is none
when it cannot be read. -/
def loadJson (environment : String → Option String) (shape : Shape)
    (file : Option (List UInt8)) : Except ConfigError Json :=
  match file.map Text.Utf8.decodeText with
  | none => .error .unreadable
  | some (.error _) => .error .unreadable
  | some (.ok text) =>
    match Environment.expand environment text with
    | .error name => .error (.unsetVariable name)
    | .ok text =>
      match (Yaml.Node.ofText? text).bind fun root => (Yaml.Tree.ofNode root).toJson? shape with
      | some value => .ok value
      | none => .error .malformed

/-- The configuration in a file. -/
def Config.load (environment : String → Option String) (file : Option (List UInt8)) :
    Except ConfigError Config := do
  let value ← loadJson environment (.record Config.memberShapes) file
  (Config.read value).mapError fun _ => .malformed

/-- The seed in a file. -/
def Seed.load (environment : String → Option String) (file : Option (List UInt8)) :
    Except ConfigError Seed := do
  let value ← loadJson environment (.record Seed.memberShapes) file
  match Seed.read? value with
  | some seed => return seed
  | none => throw .malformed

end TableFeed
