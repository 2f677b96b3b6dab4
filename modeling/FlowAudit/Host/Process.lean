import FlowAudit.Host.FileTree
import FlowAudit.Text.Numeral
import FlowAudit.Text.Utf8

/-!
# Processes as the kernel shows them

Below the proc root the kernel keeps a directory for each process, named by its number. `fd` in it
has a symbolic link for each open descriptor, whose target for a socket is `socket:[inode]`; `stat`
holds the name of the process, `cmdline` its arguments.

Names are numbers of thirty-two bits, read with an optional sign. A process is looked up by its
number, so a directory that is found under another spelling of it is not the directory read.
-/

namespace FlowAudit

/-- The number of a process. -/
abbrev Pid := Int

namespace Process

/-- Reads a number of thirty-two bits with sign. -/
def number? (s : List Char) : Option Int :=
  Text.signed? (-2147483648) 2147483647 s

/-- The directory of a process. -/
def directory (proc : Path) (pid : Pid) : Path :=
  proc.join (toString pid)

/-! ### Descriptors -/

/-- The inode of the socket that a descriptor is linked to. Any character may stand in the place of
each bracket. -/
def socketInode? (target : List Char) : Option UInt64 := do
  let rest ← Text.after? "socket:".toList target
  let name := rest.takeWhile (· ≠ ':')
  if (String.ofList name).utf8ByteSize ≤ 2 then none
  else
    let n ← Text.unsigned? 10 (Text.maxOfBits 64) (name.drop 1).dropLast
    return UInt64.ofNat n

/-- The sockets that a process holds; `none` when they cannot be listed. -/
def sockets? (host : FileTree) (proc : Path) (pid : Pid) : Option (List UInt64) := do
  let fd := (directory proc pid).join "fd"
  let names ← (host.names fd).toOption
  return names.filterMap fun name => do
    let _ ← number? name.toList
    socketInode? (← host.linkTarget? (fd.join name)).toList

/-- Whether a process holds the socket with the given inode. -/
def holds (host : FileTree) (proc : Path) (pid : Pid) (inode : UInt64) : Bool :=
  match sockets? host proc pid with
  | some inodes => host.isDirectory (directory proc pid) && inodes.contains inode
  | none => false

/-! ### Looking for a holder -/

/-- The numbers that name processes. -/
def pids (host : FileTree) (proc : Path) : List Pid :=
  match host.names proc with
  | .ok names => names.filterMap fun name => number? name.toList
  | .error _ => []

/-- The first of at most `limit` processes that holds the socket with the given inode. -/
def holder? (host : FileTree) (proc : Path) (limit : Nat) (inode : UInt64) : Option Pid :=
  ((pids host proc).take limit).find? fun pid => holds host proc pid inode

/-! ### Names and arguments -/

/-- The form of a field of `stat`. -/
inductive StatField where
  | signed (bits : Nat)
  | unsigned (bits : Nat)
  deriving DecidableEq, Repr

/-- Whether a text is a field of the given form. -/
def StatField.accepts (f : StatField) (s : List Char) : Bool :=
  match f with
  | .signed bits =>
    let most : Int := Text.maxOfBits (bits - 1)
    (Text.signed? (-most - 1) most s).isSome
  | .unsigned bits => (Text.unsigned? 10 (Text.maxOfBits bits) s).isSome

/-- The fields of `stat` behind the state that every kernel writes. -/
def requiredFields : List StatField :=
  -- parent, group, session, terminal and its group; flags
  List.replicate 5 (.signed 32) ++ [.unsigned 32] ++
  -- four counts of faults, two times; two times of children, priorities, threads, a timer
  List.replicate 6 (.unsigned 64) ++ List.replicate 6 (.signed 64) ++
  -- start time, sizes, addresses, signals
  List.replicate 16 (.unsigned 64)

/-- The fields behind those that only newer kernels write. -/
def optionalFields : List StatField :=
  -- exit signal and processor, priority and policy, delays and guest times
  [.signed 32, .signed 32, .unsigned 32, .unsigned 32, .unsigned 64, .unsigned 64, .signed 64] ++
  -- addresses of data, arguments and environment; exit code
  List.replicate 7 (.unsigned 64) ++ [.signed 32]

/-- Whether words are fields of the given forms; words behind them are not looked at, and of the
forms at most `missing` at the end may lack a word. -/
def acceptsFields (missing : Nat) : List StatField → List (List Char) → Bool
  | [], _ => true
  | fields, [] => fields.length ≤ missing
  | f :: fields, s :: rest => f.accepts s && acceptsFields missing fields rest

/-- The parts of a text between single blanks. -/
def blankParts (pending : List Char) : List Char → List (List Char)
  | [] => [pending.reverse]
  | ' ' :: rest => pending.reverse :: blankParts [] rest
  | c :: rest => blankParts (c :: pending) rest

/-- The name of a process in the text of `stat`: what stands between the first opening and the last
closing parenthesis. The number in front and the fields behind must be well formed. -/
def nameOfStat? (text : List Char) : Option String := do
  let text := Text.trim text
  let (front, rest) ← Text.splitOnce? '(' text
  let (back, name) ← Text.splitOnce? ')' rest.reverse
  let _ ← number? front.dropLast
  match blankParts [] (back.reverse.drop 1) with
  | state :: fields =>
    let accepted := acceptsFields optionalFields.length (requiredFields ++ optionalFields) fields
    if state.isEmpty || !accepted then none else some (String.ofList name.reverse)
  | [] => none

/-- The parts of a text between characters NUL. -/
def nulParts (pending : List Char) : List Char → List (List Char)
  | [] => [pending.reverse]
  | '\x00' :: rest => pending.reverse :: nulParts [] rest
  | c :: rest => nulParts (c :: pending) rest

/-- The arguments in the text of `cmdline`. -/
def argumentsOf (text : String) : List String :=
  ((nulParts [] text.toList).filter (!·.isEmpty)).map String.ofList

/-- The name of a process; `none` when it cannot be read. -/
def name? (host : FileTree) (proc : Path) (pid : Pid) : Option String := do
  let content ← (host.read ((directory proc pid).join "stat")).toOption
  nameOfStat? (Text.decodeLossy content.toList)

/-- The arguments of a process; none when they cannot be read. -/
def arguments (host : FileTree) (proc : Path) (pid : Pid) : List String :=
  match host.readText ((directory proc pid).join "cmdline") with
  | .ok text => argumentsOf text
  | .error _ => []

end Process

end FlowAudit
