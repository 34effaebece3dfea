import TableFeed.Command.Options
import TableFeed.Config.Loading

/-!
# Outcomes of a command

A command reads a configuration and a seed, takes its input through a connector and
writes the payloads to standard output.  What it reads of the machine is given to it as
`Surroundings`, so that an outcome is a function of the options and the surroundings.
-/

namespace TableFeed

/-- What a command can see of the machine. -/
structure Surroundings where
  /-- The bytes of a file; none when it cannot be read. -/
  file : String → Option (List UInt8)
  /-- The value of a variable of the environment. -/
  environment : String → Option String
  /-- The bytes of standard input. -/
  standardInput : List UInt8

/-- What a command leaves behind. -/
structure Outcome where
  /-- The exit code. -/
  exitCode : Nat
  /-- The bytes written to standard output. -/
  output : List UInt8
  /-- What there is to complain about. -/
  complaint : Option String
deriving DecidableEq, Repr

namespace Outcome

/-- All went well. -/
def success (output : List UInt8) : Outcome :=
  ⟨0, output, none⟩

/-- Something failed. -/
def failure (output : List UInt8) (complaint : String) : Outcome :=
  ⟨1, output, some complaint⟩

/-- The arguments make no sense. -/
def misuse : Outcome :=
  ⟨2, [], some ("usage: --config FILE --input FILE|- [--catalog FILE] [--flush-bytes BYTES] "
    ++ "[--json-logs]")⟩

end Outcome

namespace Options

/-- The files in which variables are replaced. -/
def templateFiles (o : Options) : List String :=
  o.config :: o.catalog.toList

/-- Whether the input is standard input. -/
def readsStandardInput (o : Options) : Bool :=
  o.input == standardInputName

/-- The bytes of the input. -/
def inputBytes? (o : Options) (s : Surroundings) : Option (List UInt8) :=
  if o.readsStandardInput then some s.standardInput else s.file o.input

/-- The seed of the catalog. -/
def seed (o : Options) (s : Surroundings) : Except ConfigError Seed :=
  match o.catalog with
  | none => .ok .empty
  | some path => Seed.load s.environment (s.file path)

/-- The configuration, found to be usable. -/
def readConfig (o : Options) (s : Surroundings) : Except ConfigError Config := do
  let config ← Config.load s.environment (s.file o.config)
  config.validate
  return config

/-- The configuration, the catalog and the input of a run, or what stands in its way. -/
def prepare (o : Options) (s : Surroundings) :
    Except String (Config × Catalog × List UInt8) := do
  let config ← (o.readConfig s).mapError fun error => "config " ++ o.config ++ ": " ++ error.message
  let seed ← (o.seed s).mapError fun error => "catalog seed: " ++ error.message
  let input ← (o.inputBytes? s).elim (.error ("cannot read input " ++ o.input)) .ok
  return (config, seed.catalog config.database, input)

/-- The complaint about records that failed. -/
def failedRecords (report : Report) : String :=
  Text.natText report.failed ++ " of " ++ Text.natText report.records ++ " records failed"

/-- Runs a command: all records must become payloads or be tombstones for it to go well. -/
def execute (o : Options) (s : Surroundings) : Outcome :=
  match o.prepare s with
  | .error complaint => .failure [] complaint
  | .ok (config, catalog, input) =>
    let run := Run.start (.ofCatalog catalog .never) (.empty "stdout" none)
    match run.complete (.ofConfig config) o.flushBytes (inputLines input) with
    | (.error error, run) => .failure run.sink.bytes error.message
    | (.ok report, run) =>
      if report.failed = 0 then .success run.sink.bytes
      else .failure run.sink.bytes (failedRecords report)

end Options

/-- The outcome of an instruction. -/
def Instruction.execute (s : Surroundings) : Instruction → Outcome
  | run options => options.execute s
  | inquire inquiry => .success (Text.Utf8.encode inquiry.answer)

/-- The outcome of a command line. -/
def Outcome.ofArguments (arguments : List String) (s : Surroundings) : Outcome :=
  match Instruction.ofArguments? arguments with
  | none => .misuse
  | some instruction => instruction.execute s

end TableFeed
