import FlowAudit.Text.Blank

/-!
# Paths of files

A path is kept as the text it was written as, since messages show it so. Two paths are the same
when their components are (`Path.same`): repeated slashes, a slash at the end and components `.`
behind the first make no difference, while `..` is a component like any other.
-/

namespace FlowAudit

/-- The path of a file. -/
structure Path where
  text : String
  deriving DecidableEq, Repr, Inhabited

namespace Path

/-- Whether the path starts at the root of the file system. -/
def isAbsolute (p : Path) : Bool :=
  p.text.toList.head? = some '/'

/-- The parts of a text between slashes behind the unfinished part `pending`, whose characters are
in reverse; parts may be empty. -/
def partsFrom (pending : List Char) : List Char → List String
  | [] => [String.ofList pending.reverse]
  | '/' :: rest => String.ofList pending.reverse :: partsFrom [] rest
  | c :: rest => partsFrom (c :: pending) rest

/-- The parts between slashes that are not empty. -/
def parts (p : Path) : List String :=
  (partsFrom [] p.text.toList).filter (· ≠ "")

/-- Whether the path ends with a slash, and so can only name a directory. -/
def endsInSlash (p : Path) : Bool :=
  p.text.toList.getLast? = some '/'

/-- The parts that make two paths the same: all but the `.` that stand behind another part or at
the root. -/
def components (p : Path) : List String :=
  match p.parts with
  | [] => []
  | first :: rest =>
    let rest := rest.filter (· ≠ ".")
    if first = "." && p.isAbsolute then rest else first :: rest

/-- Whether two paths have the same components. -/
def same (p q : Path) : Bool :=
  p.isAbsolute = q.isAbsolute && p.components = q.components

/-- The path of `name` below the directory `p`; a name that is absolute stands for itself. -/
def join (p : Path) (name : String) : Path :=
  if name.toList.head? = some '/' then ⟨name⟩
  else if p.text = "" || p.endsInSlash then ⟨p.text ++ name⟩
  else ⟨p.text ++ "/" ++ name⟩

end Path

end FlowAudit
