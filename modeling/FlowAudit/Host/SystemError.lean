/-!
# Failures of the operating system

The reasons for which the host refuses to open, read or connect to something, and the text that it
shows for each of them.
-/

namespace FlowAudit

/-- Why an operation on the host's files or sockets failed. -/
inductive SystemError where
  | notFound
  | noSuchDevice
  | notADirectory
  | isADirectory
  | invalidArgument
  | nameTooLong
  | tooManyLinks
  | connectionRefused
  /-- A file was to be read as text, and its octets are not UTF-8. -/
  | notText
  /-- A path holds the character NUL. -/
  | nulInPath
  /-- The path of a socket holds the character NUL. -/
  | nulInSocketPath
  /-- The path of a socket does not fit into a socket address. -/
  | socketPathTooLong
  /-- A failure that is told apart from others only by the host's number for it and its text. -/
  | other (number : Nat) (text : String)
  deriving DecidableEq, Repr, Inhabited

namespace SystemError

/-- The failure to which the host gives a number and, if it has no name here, a text. -/
def ofNumber (number : Nat) (text : String) : SystemError :=
  match number with
  | 2 => .notFound
  | 6 => .noSuchDevice
  | 20 => .notADirectory
  | 21 => .isADirectory
  | 22 => .invalidArgument
  | 36 => .nameTooLong
  | 40 => .tooManyLinks
  | 111 => .connectionRefused
  | _ => .other number text

/-- A description with the number that the host gives to the failure. -/
def numbered (text : String) (number : Nat) : String :=
  text ++ " (os error " ++ toString number ++ ")"

/-- The text shown for a failure. -/
def message : SystemError → String
  | .notFound => numbered "No such file or directory" 2
  | .noSuchDevice => numbered "No such device or address" 6
  | .notADirectory => numbered "Not a directory" 20
  | .isADirectory => numbered "Is a directory" 21
  | .invalidArgument => numbered "Invalid argument" 22
  | .nameTooLong => numbered "File name too long" 36
  | .tooManyLinks => numbered "Too many levels of symbolic links" 40
  | .connectionRefused => numbered "Connection refused" 111
  | .notText => "stream did not contain valid UTF-8"
  | .nulInPath => "file name contained an unexpected NUL byte"
  | .nulInSocketPath => "paths must not contain interior null bytes"
  | .socketPathTooLong => "path must be shorter than SUN_LEN"
  | .other number text => numbered text number

end SystemError

end FlowAudit
