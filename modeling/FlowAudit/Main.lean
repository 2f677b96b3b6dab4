import Std.Time.DateTime.Timestamp
import FlowAudit.CommandLine.Commands
import FlowAudit.CommandLine.Help

/-!
# The program

This outer layer reads what a command needs from the host, lets the command be carried out, and prints
what it leads to. Sockets and the targets of symbolic links are out of its reach: it finds no process
behind a connection, and to it no sink can be used.
-/

namespace FlowAudit.CommandLine

/-- The failure with a number, which may be given as its negative in thirty-two bits. -/
def failureOfCode (code : UInt32) (text : String) : SystemError :=
  .ofNumber (min code.toNat (-code).toNat) text

/-- The failure that an exception of the host stands for. -/
def failureOf : IO.Error → SystemError
  | .noFileOrDirectory _ code text | .permissionDenied _ code text
  | .inappropriateType _ code text | .invalidArgument _ code text
  | .noSuchThing _ code text | .resourceExhausted _ code text
  | .interrupted _ code text | .otherError code text => failureOfCode code text
  | _ => .other 5 "Input/output error"

/-- Reads a file of the host. -/
def readOctets (p : Path) : IO (Except SystemError ByteArray) := do
  try return .ok (← IO.FS.readBinFile p.text)
  catch e => return .error (failureOf e)

/-- The files of the host that a command looks at, besides the configuration. -/
def readFiles (c : Configuration) : IO FileTree := do
  let table := Conntrack.tablePath c.source.procRoot
  match ← readOctets table with
  | .ok octets => return FileTree.empty.insert (.file octets) table.parts
  | .error _ => return .empty

/-- Random bits. -/
def randomWord : IO UInt64 := do
  return (← IO.getRandomBytes 8).foldl (fun word octet => word <<< 8 ||| octet.toUInt64) 0

/-- The host as a command meets it. -/
def currentHost (files : FileTree) : IO Host := do
  let high ← randomWord
  let low ← randomWord
  let sinceEpoch := (← Std.Time.Timestamp.now).toNanosecondsSinceUnixEpoch.val
  let timestamp : Timestamp := ⟨sinceEpoch.fdiv 1000000000, (sinceEpoch.fmod 1000000000).toNat⟩
  let now ← IO.monoMsNow
  let history := HostHistory.still files fun _ => none
  return {
    files
    identifier := .ofRandom high low
    pid := 0
    around := fun n => ⟨history, .ofRandom high (low + UInt64.ofNat (n + 1)), timestamp, now⟩
    connect := fun target => .error (.unreachableSocket ⟨target.place⟩ .connectionRefused)
    reactions := fun _ => []
    turns := fun _ => [] }

/-- Carries out what is asked for, and answers the code to end with. -/
def carryOut (a : Arguments) : IO UInt32 := do
  let octets ← readOctets a.configuration
  let loaded := Configuration.ofReading a.configuration (octets.bind FileTree.textOf)
  let files ← match loaded with
    | .ok c => readFiles c
    | .error _ => pure .empty
  let outcome := executeWith (← currentHost files) a loaded
  for line in outcome.lines do
    IO.println line
  for line in outcome.report do
    IO.eprintln line
  return outcome.exitCode

end FlowAudit.CommandLine

open FlowAudit.CommandLine in
/-- Runs the program with the arguments of its command line. -/
def main (arguments : List String) : IO UInt32 := do
  match Arguments.parse (← IO.getEnv configurationVariable) arguments with
  | .ok a => carryOut a
  | .error usage =>
    for line in usage.lines do
      if usage.exitCode = 0 then IO.println line else IO.eprintln line
    return usage.exitCode
