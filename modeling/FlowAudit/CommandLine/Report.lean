import FlowAudit.Configuration
import FlowAudit.Record
import FlowAudit.Text.Duration

/-!
# What the commands print

Everything that is printed is a list of lines: a configuration as it was understood, the records of a
snapshot, and the report about a failure, which names what was attempted and below it what caused the
failure.
-/

namespace FlowAudit.CommandLine

/-- A text with blanks behind it, so that it fills a column. -/
def column (width : Nat) (s : String) : String :=
  s ++ String.ofList (List.replicate (width - s.length) ' ')

/-- A row of the table of sinks. -/
def sinkRow (kind network target : String) : String :=
  column 16 kind ++ " " ++ column 8 network ++ " " ++ target

/-- A configuration as it was understood, for an agent with the given identifier. -/
def settingsLines (c : Configuration) (identifier : Uuid) : List String :=
  ["agent      " ++ c.agent.name ++ " (" ++ identifier.render ++ ")",
    "proc root  " ++ c.source.procRoot.text,
    "interval   " ++ Text.duration c.source.pollInterval,
    "filters    non-process " ++ Text.switch c.filters.nonProcess ++ ", dns " ++
      Text.switch c.filters.dns ++ ", self-traffic " ++ Text.switch c.filters.selfTraffic,
    "",
    sinkRow "KIND" "NETWORK" "TARGET"] ++
  c.sinks.map fun t =>
    sinkRow t.kind.name (if t.isNetworkBound then "yes" else "no") t.displayName

/-- The line that says that a configuration makes sense. -/
def soundLine (path : Path) : String :=
  path.text ++ ": ok"

/-- The lines of a snapshot, of all records or only of those that name a process. -/
def recordLines (onlyAttributed : Bool) (records : List Record) : List String :=
  (records.filter fun r => !onlyAttributed || r.owner.isSome).map Record.render

/-- The line that tells the version of the program. -/
def versionLine : String :=
  programName ++ " " ++ programVersion

/-! ### Failures -/

/-- The lines of a text, of which the first stands behind `first` and the others behind `others`. -/
def indented (first others : String) (s : String) : List String :=
  match s.splitOn "\n" with
  | [] => [first]
  | line :: rest => (first ++ line) :: rest.map (others ++ ·)

/-- The number of a cause in a report. -/
def causeNumber (n : Nat) : String :=
  let digits := toString n
  String.ofList (List.replicate (5 - digits.length) ' ') ++ digits ++ ": "

/-- The lines about the causes of a failure, the nearest first. Only several causes are numbered. -/
def causeLines : List String → List String
  | [] => []
  | [cause] => ["", "Caused by:"] ++ indented "    " "    " cause
  | causes =>
    ["", "Caused by:"] ++
      causes.zipIdx.flatMap fun (cause, n) => indented (causeNumber n) "       " cause

/-- The report about a failure, given by what failed and its causes. -/
def failureLines : List String → List String
  | [] => []
  | failure :: causes => indented "Error: " "" failure ++ causeLines causes

end FlowAudit.CommandLine
