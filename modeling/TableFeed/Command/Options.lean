import TableFeed.Command.Inquiry
import TableFeed.Delivery.Run
import TableFeed.Number.Power
import TableFeed.Text.Digits

/-!
# Options of a command

The arguments name a configuration, an input and, if wanted, a seed of the catalog,
and may set the threshold of the buffers.  Each setting has a long name, two of them
have a letter as well.  A value stands after its setting as an argument of its own, or
is attached to it.  No setting is given twice and there are no other arguments.  An
inquiry takes the place of all arguments after it.
-/

namespace TableFeed

/-- What the command line can set. -/
inductive Setting where
  /-- The file of the configuration. -/
  | config
  /-- The file of the input. -/
  | input
  /-- The file of the catalog's seed. -/
  | catalog
  /-- The threshold of a buffer in bytes. -/
  | flushBytes
  /-- The form of log lines, which no outcome depends on. -/
  | jsonLogs
deriving DecidableEq, Repr

namespace Setting

/-- Every setting. -/
def all : List Setting :=
  [config, input, catalog, flushBytes, jsonLogs]

/-- The long name of a setting. -/
def name : Setting → String
  | config => "config"
  | input => "input"
  | catalog => "catalog"
  | flushBytes => "flush-bytes"
  | jsonLogs => "json-logs"

/-- The letter of a setting. -/
def letter? : Setting → Option Char
  | config => some 'c'
  | input => some 'i'
  | catalog | flushBytes | jsonLogs => none

/-- Whether a setting has a value. -/
def hasValue : Setting → Bool
  | config | input | catalog | flushBytes => true
  | jsonLogs => false

/-- The setting that an argument names, and the value attached to it: after an equals sign, or
right after the letter. -/
def ofArgument? : List Char → Option (Setting × Option String)
  | '-' :: '-' :: body =>
    let (name, attached) := body.span (· ≠ '=')
    let value := match attached with
      | [] => none
      | _ :: value => some (String.ofList value)
    (all.find? fun setting => setting.name.toList == name).map fun setting => (setting, value)
  | '-' :: letter :: attached =>
    let value := match attached with
      | [] => none
      | '=' :: value => some (String.ofList value)
      | value => some (String.ofList value)
    (all.find? fun setting => setting.letter? == some letter).map fun setting => (setting, value)
  | _ => none

end Setting

/-- Whether an argument can be a value of its own: a lone dash can, anything else that begins with
a dash cannot. -/
def isValueArgument (argument : String) : Bool :=
  match argument.toList with
  | '-' :: _ :: _ => false
  | _ => true

/-- The settings that arguments give, with their values, and the inquiry that ends them if there is
one.  A double dash may end the arguments too. -/
def readSettings? : List String → Option (List (Setting × String) × Option Inquiry)
  | [] => some ([], none)
  | ["--"] => some ([], none)
  | argument :: rest =>
    match Inquiry.ofArgument? argument, Setting.ofArgument? argument.toList with
    | some inquiry, _ => some ([], some inquiry)
    | none, none => none
    | none, some (setting, attached) =>
      match setting.hasValue, attached, rest with
      | false, none, rest => addSetting (setting, "") (readSettings? rest)
      | true, some value, rest => addSetting (setting, value) (readSettings? rest)
      | true, none, value :: rest =>
        if isValueArgument value then addSetting (setting, value) (readSettings? rest) else none
      | _, _, _ => none
where
  /-- Puts a setting before those that follow. -/
  addSetting (setting : Setting × String)
      (rest : Option (List (Setting × String) × Option Inquiry)) :
      Option (List (Setting × String) × Option Inquiry) :=
    rest.map fun (settings, inquiry) => (setting :: settings, inquiry)

/-- What a command is told to do. -/
structure Options where
  /-- The file of the configuration. -/
  config : String
  /-- The file of the input. -/
  input : String
  /-- The file of the catalog's seed, if there is one. -/
  catalog : Option String
  /-- The threshold of a buffer in bytes. -/
  flushBytes : Nat
deriving DecidableEq, Repr

namespace Options

/-- A threshold is below this number. -/
def flushBytesLimit : Nat := twoTo 64

/-- The input that stands for standard input. -/
def standardInputName : String := "-"

/-- The threshold that a value gives. -/
def readFlushBytes? : Option String → Option Nat
  | none => some defaultFlushBytes
  | some text => Text.readUnsigned flushBytesLimit text

/-- The options that settings give; configuration and input must be among them. -/
def ofSettings? (settings : List (Setting × String)) (flushBytes : Nat) : Option Options := do
  let config ← settings.lookup .config
  let input ← settings.lookup .input
  return ⟨config, input, settings.lookup .catalog, flushBytes⟩

end Options

/-- What a command line asks for. -/
inductive Instruction where
  /-- A run. -/
  | run (options : Options)
  /-- An answer. -/
  | inquire (inquiry : Inquiry)
deriving DecidableEq, Repr

/-- What arguments ask for.  Settings before an inquiry must make sense, but need not be
complete. -/
def Instruction.ofArguments? (arguments : List String) : Option Instruction := do
  let (settings, inquiry) ← readSettings? arguments
  if ¬ (settings.map Prod.fst).Nodup then none
  else
    let flushBytes ← Options.readFlushBytes? (settings.lookup .flushBytes)
    match inquiry with
    | some inquiry => return .inquire inquiry
    | none => (Options.ofSettings? settings flushBytes).map .run

end TableFeed
