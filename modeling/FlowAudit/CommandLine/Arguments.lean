import FlowAudit.Configuration
import FlowAudit.Text.Blank
import FlowAudit.Text.Numeral

/-!
# Arguments

A command line names a command, and options in front of it and behind it. Some options belong to all
commands and may stand in either place; where both places give one, the later counts. The path of the
configuration may also come from the environment, which counts less than the command line.

Options have a long name and some a letter; letters may be written together. The value of an option is
the next argument, or stands behind `=` or right behind its letter. An argument that looks like an
option is never taken for a value. No option may be given twice in one place.

A value is looked at when the next option, the end of the place or the command behind it has been
read, so of two mistakes the later one may be answered.
-/

namespace FlowAudit.CommandLine

/-- How log lines are written. -/
inductive LogFormat where
  | text
  | json
  deriving DecidableEq, Repr, Inhabited

namespace LogFormat

/-- The name of a format on the command line. -/
def name : LogFormat → String
  | .text => "text"
  | .json => "json"

/-- The format with the given name. -/
def ofName? (s : String) : Option LogFormat :=
  [text, json].find? (·.name = s)

end LogFormat

/-- A command with its own options. -/
inductive Command where
  /-- Run the agent until it is asked to stop. -/
  | run (pollInterval : Option UInt64)
  /-- Check the configuration and show it. -/
  | checkConfig (quiet : Bool)
  /-- Show what is open right now. -/
  | snapshot (attributed : Bool)
  deriving DecidableEq, Repr, Inhabited

/-- What a command line asks for. -/
structure Arguments where
  configuration : Path
  logFormat : LogFormat
  verbose : Bool
  command : Command
  deriving DecidableEq, Repr, Inhabited

/-- Why no command is carried out. -/
inductive Usage where
  | help
  | version
  /-- Nothing is given at all, so help is shown. -/
  | nothingGiven
  | missingCommand
  | unknownCommand
  | unknownArgument
  /-- A value is missing, empty or not one of those possible. -/
  | unusableValue
  /-- A value is not a number, or too large. -/
  | malformedNumber
  /-- A value is given for an option that takes none. -/
  | needlessValue
  | repeated
  deriving DecidableEq, Repr, Inhabited

/-- The code with which the program ends without carrying out a command. -/
def Usage.exitCode : Usage → UInt32
  | .help | .version => 0
  | _ => 2

/-! ### Commands and options -/

/-- The commands. -/
inductive CommandName where
  | run
  | checkConfig
  | snapshot
  deriving DecidableEq, Repr, Inhabited

namespace CommandName

/-- The name of a command on the command line. -/
def text : CommandName → String
  | .run => "run"
  | .checkConfig => "check-config"
  | .snapshot => "snapshot"

/-- The command with the given name. -/
def ofText? (s : String) : Option CommandName :=
  [run, checkConfig, snapshot].find? (·.text = s)

/-- The word that stands for a request for help where a command may stand. -/
def helpText : String := "help"

end CommandName

/-- The options. -/
inductive Flag where
  | configuration
  | logFormat
  | verbose
  | help
  | version
  | pollInterval
  | quiet
  | attributed
  deriving DecidableEq, Repr, Inhabited

namespace Flag

/-- The long name of an option. -/
def long : Flag → String
  | .configuration => "config"
  | .logFormat => "log-format"
  | .verbose => "verbose"
  | .help => "help"
  | .version => "version"
  | .pollInterval => "poll-interval-ms"
  | .quiet => "quiet"
  | .attributed => "attributed"

/-- The letter of an option. -/
def letter? : Flag → Option Char
  | .configuration => some 'c'
  | .verbose => some 'v'
  | .help => some 'h'
  | .version => some 'V'
  | .quiet => some 'q'
  | .logFormat | .pollInterval | .attributed => none

/-- Whether an option has a value. -/
def takesValue : Flag → Bool
  | .configuration | .logFormat | .pollInterval => true
  | _ => false

/-- The options that belong to all commands. -/
def common : List Flag :=
  [.configuration, .logFormat, .verbose, .help]

/-- The options that may stand behind a command, or in front of all. -/
def known : Option CommandName → List Flag
  | none => common ++ [.version]
  | some .run => common ++ [.pollInterval]
  | some .checkConfig => common ++ [.quiet]
  | some .snapshot => common ++ [.attributed]

end Flag

/-! ### Values -/

/-- The options given in one place. -/
structure Given where
  configuration : Option Path := none
  logFormat : Option LogFormat := none
  verbose : Bool := false
  pollInterval : Option UInt64 := none
  quiet : Bool := false
  attributed : Bool := false
  deriving DecidableEq, Repr, Inhabited

namespace Given

/-- Whether an option is given. -/
def holds (g : Given) : Flag → Bool
  | .configuration => g.configuration.isSome
  | .logFormat => g.logFormat.isSome
  | .verbose => g.verbose
  | .pollInterval => g.pollInterval.isSome
  | .quiet => g.quiet
  | .attributed => g.attributed
  | .help | .version => false

/-- A path, which is not empty. -/
def path (value : String) : Except Usage Path :=
  if value = "" then .error .unusableValue else .ok ⟨value⟩

/-- Adds an option with its value, which is disregarded for options that have none. -/
def put (g : Given) (flag : Flag) (value : String) : Except Usage Given := do
  if g.holds flag then .error .repeated
  match flag with
  | .configuration => return { g with configuration := some (← path value) }
  | .logFormat =>
    match LogFormat.ofName? value with
    | some format => return { g with logFormat := some format }
    | none => .error .unusableValue
  | .pollInterval =>
    match Text.unsigned? 10 (Text.maxOfBits 64) value.toList with
    | some n => return { g with pollInterval := some (UInt64.ofNat n) }
    | none => .error .malformedNumber
  | .verbose => return { g with verbose := true }
  | .quiet => return { g with quiet := true }
  | .attributed => return { g with attributed := true }
  | .help => .error .help
  | .version => .error .version

end Given

/-! ### Reading one place -/

/-- What is read so far of the options in one place. -/
structure Place where
  given : Given := {}
  /-- The last option, which is not added yet, and its value if there is one already. -/
  pending : Option (Flag × Option String) := none
  deriving DecidableEq, Repr, Inhabited

namespace Place

/-- Whether the last option still has no value. -/
def waits (p : Place) : Bool :=
  match p.pending with
  | some (_, none) => true
  | _ => false

/-- Adds the last option. -/
def settle (p : Place) : Except Usage Place :=
  match p.pending with
  | none => .ok p
  | some (_, none) => .error .unusableValue
  | some (flag, some value) => return ⟨← p.given.put flag value, none⟩

/-- Meets an option whose value, if it has one, is yet to come. -/
def meet (p : Place) (flag : Flag) : Except Usage Place := do
  let p ← p.settle
  if flag.takesValue then return { p with pending := some (flag, none) }
  else return ⟨← p.given.put flag "", none⟩

/-- Meets an option with its value. -/
def meetWith (p : Place) (flag : Flag) (value : String) : Except Usage Place := do
  if !flag.takesValue then .error .needlessValue
  let p ← p.settle
  return ⟨← p.given.put flag value, none⟩

/-- Meets an argument with a long name, without its dashes. -/
def meetLong (known : List Flag) (p : Place) (s : List Char) : Except Usage Place :=
  let (name, value) := match Text.splitOnce? '=' s with
    | some (name, value) => (name, some (String.ofList value))
    | none => (s, none)
  match known.find? (·.long = String.ofList name), value with
  | none, _ => .error .unknownArgument
  | some flag, none => p.meet flag
  | some flag, some value => p.meetWith flag value

/-- Meets letters written together. -/
def meetLetters (known : List Flag) (p : Place) : List Char → Except Usage Place
  | [] => .ok p
  | c :: rest =>
    match known.find? (·.letter? = some c), rest with
    | none, _ => .error .unknownArgument
    | some flag, [] => p.meet flag
    | some flag, rest => do
      if flag.takesValue then
        p.meetWith flag (String.ofList (if rest.head? = some '=' then rest.drop 1 else rest))
      else
        (← p.meet flag).meetLetters known rest

/-- What is wrong with a word that is no option and no value. -/
def strayWord (scope : Option CommandName) (behindDashes : Bool) (word : String) : Usage :=
  match scope with
  | some _ => .unknownArgument
  | none =>
    let isCommand := (CommandName.ofText? word).isSome || word = CommandName.helpText
    if behindDashes && isCommand then .unknownArgument else .unknownCommand

/-- What a request for help about the given words is answered. -/
def helpAbout : List String → Usage
  | [] => .help
  | [word] =>
    if (CommandName.ofText? word).isSome || word = CommandName.helpText then .help
    else .unknownCommand
  | _ => .unknownCommand

/-- Reads the options in the place behind a command, or in front of all. There it ends at a command,
which is answered together with the arguments behind it. -/
def read (scope : Option CommandName) (p : Place) :
    List String → Except Usage (Place × Option (CommandName × List String))
  | [] => .ok (p, none)
  | argument :: rest =>
    let mayBeCommand := scope.isNone && !p.waits
    match if mayBeCommand then CommandName.ofText? argument else none with
    | some name => .ok (p, some (name, rest))
    | none =>
      if mayBeCommand && argument = CommandName.helpText then
        .error (helpAbout rest)
      else
        match argument.toList with
        | ['-', '-'] =>
          match rest with
          | [] => .ok (p, none)
          | word :: _ => .error (strayWord scope true word)
        | '-' :: '-' :: name => do (← p.meetLong (Flag.known scope) name).read scope rest
        | '-' :: c :: letters => do
          (← p.meetLetters (Flag.known scope) (c :: letters)).read scope rest
        | _ =>
          match p.pending with
          | some (flag, none) => { p with pending := some (flag, some argument) }.read scope rest
          | _ => .error (strayWord scope false argument)

/-- The options of a place that is read to its end. The path in the environment counts where the
place gives none, and must make sense there. -/
def finish (p : Place) (environment : Option String) : Except Usage Given := do
  let p ← p.settle
  match p.given.configuration, environment with
  | none, some value => let _ ← Given.path value
  | _, _ => pure ()
  return p.given

end Place

/-! ### Reading all -/

/-- The variable of the environment that may hold the path of the configuration. -/
def configurationVariable : String := "CONNTRAIL_CONFIG"

namespace Arguments

/-- What the options in front of a command and behind it ask for together. -/
def ofGiven (environment : Option String) (outer inner : Given) (name : CommandName) : Arguments where
  configuration :=
    ((inner.configuration.or outer.configuration).or (environment.map Path.mk)).getD
      defaultConfigurationPath
  logFormat := (inner.logFormat.or outer.logFormat).getD .text
  verbose := outer.verbose || inner.verbose
  command := match name with
    | .run => .run inner.pollInterval
    | .checkConfig => .checkConfig inner.quiet
    | .snapshot => .snapshot inner.attributed

/-- Reads a command line. `environment` is the path of the configuration in the environment. -/
def parse (environment : Option String) (arguments : List String) : Except Usage Arguments := do
  let (outer, chosen) ← Place.read none {} arguments
  match chosen with
  | none =>
    let given ← outer.finish environment
    if given = {} && environment.isNone then .error .nothingGiven else .error .missingCommand
  | some (name, rest) =>
    let (inner, _) ← Place.read (some name) {} rest
    let inner ← inner.finish environment
    let outer ← outer.finish environment
    return ofGiven environment outer inner name

end Arguments

end FlowAudit.CommandLine
