import TableFeed.Text.Pieces

/-!
# Inquiries

A command line may ask what the command does or which version it has, instead of
asking for a run.
-/

namespace TableFeed

/-- What a command line asks for instead of a run. -/
inductive Inquiry where
  /-- What the command does. -/
  | help
  /-- Which version it has. -/
  | version
deriving DecidableEq, Repr

namespace Inquiry

/-- The name of the command. -/
def commandName : String := "doris-connect"

/-- The version, and the revision that it was made from. -/
def versionName : String := "0.1.0 (unknown)"

/-- The lines that say what the command does. -/
def helpLines : List String :=
  ["Run connector records through the row transformer against an in-memory catalog and print the",
    "resulting load payloads",
    "",
    "Usage: " ++ commandName ++ " [OPTIONS] --config <CONFIG> --input <INPUT>",
    "",
    "Options:",
    "  -c, --config <CONFIG>            Connector config (YAML)",
    "  -i, --input <INPUT>              JSON-lines records, \x60-\x60 for stdin",
    "      --catalog <CATALOG>          Catalog seed (YAML) with the existing destination tables",
    "      --flush-bytes <FLUSH_BYTES>  [default: 1048576]",
    "      --json-logs                  JSON log lines on stderr",
    "  -h, --help                       Print help",
    "  -V, --version                    Print version"]

/-- The answer to an inquiry. -/
def answer : Inquiry → String
  | help => Text.join "\n" helpLines ++ "\n"
  | version => commandName ++ " " ++ versionName ++ "\n"

/-- The inquiry that an argument makes.  What follows a letter makes no difference. -/
def ofArgument? (argument : String) : Option Inquiry :=
  if argument = "--help" then some help
  else if argument = "--version" then some version
  else
    match argument.toList with
    | '-' :: 'h' :: _ => some help
    | '-' :: 'V' :: _ => some version
    | _ => none

end Inquiry

end TableFeed
