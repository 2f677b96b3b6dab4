import FlowAudit.CommandLine.Arguments
import FlowAudit.CommandLine.Report

/-!
# Help

What is printed when no command is carried out: the version, or how the program is called.
-/

namespace FlowAudit.CommandLine

/-- How the program is called. -/
def helpLines : List String :=
  ["Attributes network connections to the processes that own them",
    "",
    "Usage: " ++ programName ++ " [OPTIONS] <COMMAND>",
    "",
    "Commands:",
    "  run [--poll-interval-ms N]  Run the agent until it is interrupted",
    "  check-config [-q, --quiet]  Check the configuration and print its sinks",
    "  snapshot [--attributed]     Print the current connections as JSON lines",
    "  help                        Print this text",
    "",
    "Options:",
    "  -c, --config PATH           Path of the configuration [" ++ configurationVariable ++ "]",
    "      --log-format FORMAT     Format of log lines, text or json",
    "  -v, --verbose               Log more",
    "  -h, --help                  Print this text",
    "  -V, --version               Print the version"]

namespace Usage

/-- What is wrong with a command line; `none` when nothing is. -/
def complaint? : Usage → Option String
  | .help | .version | .nothingGiven => none
  | .missingCommand => some "a command is required"
  | .unknownCommand => some "there is no such command"
  | .unknownArgument => some "there is an unexpected argument"
  | .unusableValue => some "the value of an option is missing or not possible"
  | .malformedNumber => some "the value of an option is not a number"
  | .needlessValue => some "an option that takes no value is given one"
  | .repeated => some "an option is given twice"

/-- The lines printed in place of a command. -/
def lines (u : Usage) : List String :=
  match u with
  | .version => [versionLine]
  | _ => (u.complaint?.toList.flatMap fun text => ["error: " ++ text, ""]) ++ helpLines

end Usage

end FlowAudit.CommandLine
