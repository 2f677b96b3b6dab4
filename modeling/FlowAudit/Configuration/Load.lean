import FlowAudit.Configuration.Validity
import FlowAudit.Configuration.Yaml
import FlowAudit.Host.FileTree

/-!
# Loading a configuration

A configuration comes from a file: it is read as text, taken apart, and checked. What fails first is
reported.
-/

namespace FlowAudit

/-- Why there is no configuration. -/
inductive ConfigurationError where
  /-- The file cannot be read. -/
  | unreadable (path : Path) (cause : SystemError)
  /-- The text is not YAML, or holds something else than settings. -/
  | malformed (origin : Path)
  | invalid (reason : Invalidity)
  deriving DecidableEq, Repr, Inhabited

namespace ConfigurationError

/-- What stands for the place and the cause of a malformed text. -/
def malformedText : String := "<yaml error>"

/-- The text shown for an error. -/
def message : ConfigurationError → String
  | .unreadable path cause => "I/O error at " ++ path.text ++ ": " ++ cause.message
  | .malformed origin => "failed to parse configuration " ++ origin.text ++ ": " ++ malformedText
  | .invalid reason => "invalid configuration: " ++ reason.message

/-- What is behind an error, as far as it is an error by itself. -/
def causes : ConfigurationError → List String
  | .unreadable _ cause => [cause.message]
  | .malformed _ => [malformedText]
  | .invalid _ => []

end ConfigurationError

namespace Configuration

/-- Checks settings that are read. -/
def checked (c : Configuration) : Except ConfigurationError Configuration :=
  match c.check with
  | .ok () => .ok c
  | .error reason => .error (.invalid reason)

/-- The configuration in a text from `origin`. -/
def parse (text : String) (origin : Path) : Except ConfigurationError Configuration :=
  match ofYaml? text with
  | some c => c.checked
  | none => .error (.malformed origin)

/-- The configuration in a file, whose reading gave a text or a failure. -/
def ofReading (path : Path) : Except SystemError String → Except ConfigurationError Configuration
  | .ok text => parse text path
  | .error cause => .error (.unreadable path cause)

/-- The configuration in a file. -/
def load (files : FileTree) (path : Path) : Except ConfigurationError Configuration :=
  ofReading path (files.readText path)

end Configuration

end FlowAudit
