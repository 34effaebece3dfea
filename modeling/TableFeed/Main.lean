import TableFeed.Command.Outcome

/-!
# The program

The outer layer of the command line: it reads the files, variables and standard input
that a command line calls for, and writes the outcome.  Everything else is decided by
`Instruction.execute`.
-/

namespace TableFeed.Program

/-- The bytes of a file; none when it cannot be read. -/
def readFile (path : String) : IO (Option (List UInt8)) := do
  try
    let bytes ← IO.FS.readBinFile path
    return some bytes.toList
  catch _ =>
    return none

/-- The files that options name, with their bytes. -/
def readFiles (options : Options) : IO (List (String × Option (List UInt8))) := do
  let inputFiles := if options.readsStandardInput then [] else [options.input]
  (options.templateFiles ++ inputFiles).mapM fun path => return (path, ← readFile path)

/-- The variables that the text of a file may use, with their values. -/
def readVariables (file : Option (List UInt8)) : IO (List (String × Option String)) := do
  match Text.Utf8.decode (file.getD []) with
  | .error _ => return []
  | .ok text => (Environment.names text).mapM fun name => return (name, ← IO.getEnv name)

/-- The bytes of standard input, when options call for them. -/
def readStandardInput (options : Options) : IO (List UInt8) := do
  if options.readsStandardInput then
    let bytes ← (← IO.getStdin).readBinToEnd
    return bytes.toList
  else
    return []

/-- What a run calls for. -/
def runSurroundings (options : Options) : IO Surroundings := do
  let files ← readFiles options
  let file path := (files.lookup path).getD none
  let values ← options.templateFiles.mapM fun path => readVariables (file path)
  let standardInput ← readStandardInput options
  let environment name := (values.flatten.lookup name).getD none
  return ⟨file, environment, standardInput⟩

/-- What an instruction calls for; an answer needs nothing. -/
def surroundings : Instruction → IO Surroundings
  | .run options => runSurroundings options
  | .inquire _ => return ⟨fun _ => none, fun _ => none, []⟩

/-- The outcome of a command line. -/
def outcome (arguments : List String) : IO Outcome := do
  match Instruction.ofArguments? arguments with
  | none => return .misuse
  | some instruction => return instruction.execute (← surroundings instruction)

end TableFeed.Program

/-- Runs the command line and answers its exit code. -/
def main (arguments : List String) : IO UInt32 := do
  let outcome ← TableFeed.Program.outcome arguments
  let output ← IO.getStdout
  output.write ⟨outcome.output.toArray⟩
  output.flush
  match outcome.complaint with
  | some complaint => IO.eprintln complaint
  | none => pure ()
  return UInt32.ofNat outcome.exitCode
