import FlowAudit.Host.Path
import FlowAudit.Host.SystemError

/-!
# Trees of files

`FileTree` is the content of a file system at one moment: files, directories, symbolic links and
sockets. Looking a path up follows the links on its way, at most `maxLinks` of them, so it always
ends; `..` leaves the directory that was reached, not the one that was written.
-/

namespace FlowAudit

/-- What a name in a directory stands for. -/
inductive FileTree where
  | file (content : ByteArray)
  | link (target : String)
  /-- A local socket, by a number that no other socket has. -/
  | socket (number : Nat)
  | directory (entries : List (String × FileTree))
  deriving Inhabited

namespace FileTree

/-- The tree without any file. -/
def empty : FileTree :=
  .directory []

/-! ### Places -/

/-- What stands at a place, given by the names on the way from the root; links are not followed. -/
def at? (t : FileTree) : List String → Option FileTree
  | [] => some t
  | name :: rest =>
    match t with
    | .directory entries => (entries.lookup name).bind fun child => child.at? rest
    | _ => none

/-- The most links that are followed on the way to a file. -/
def maxLinks : Nat := 40

/-- The longest name that a directory can hold, in octets. -/
def maxName : Nat := 255

/-- The longest path, in octets. -/
def maxPath : Nat := 4095

/-- The names that a path goes through; a slash at its end counts as `.`. -/
def steps (p : Path) : List String :=
  if p.endsInSlash then p.parts ++ ["."] else p.parts

/-- The place reached from the directory at `place` through `names`, when `links` more links may be
followed. `toEnd` tells whether a link at the very end is followed as well. -/
def walk (t : FileTree) (toEnd : Bool) (links : Nat) (place : List String) (names : List String) :
    Except SystemError (List String) :=
  match names with
  | [] => .ok place
  | name :: rest =>
    if name = "." then
      t.walk toEnd links place rest
    else if name = ".." then
      t.walk toEnd links place.dropLast rest
    else if name.utf8ByteSize > maxName then
      .error .nameTooLong
    else
      match t.at? (place ++ [name]) with
      | none => .error .notFound
      | some (.directory _) => t.walk toEnd links (place ++ [name]) rest
      | some (.link target) =>
        if rest = [] && !toEnd then .ok (place ++ [name])
        else if target = "" then .error .notFound
        else
          match links with
          | 0 => .error .tooManyLinks
          | links + 1 =>
            let start := if Path.isAbsolute ⟨target⟩ then [] else place
            t.walk toEnd links start (steps ⟨target⟩ ++ rest)
      | some _ => if rest = [] then .ok (place ++ [name]) else .error .notADirectory
termination_by (links, names.length)

/-- What a path stands for. Paths start at the root, also those that are not absolute. -/
def lookup (t : FileTree) (p : Path) (toEnd : Bool) : Except SystemError FileTree := do
  if p.text.toList.contains '\x00' then .error .nulInPath
  else if p.text = "" then .error .notFound
  else if p.text.utf8ByteSize > maxPath then .error .nameTooLong
  else
    let place ← t.walk toEnd maxLinks [] (steps p)
    match t.at? place with
    | some found => .ok found
    | none => .error .notFound

/-! ### Reading -/

/-- The octets of a file. -/
def read (t : FileTree) (p : Path) : Except SystemError ByteArray := do
  match ← t.lookup p true with
  | .file content => .ok content
  | .directory _ => .error .isADirectory
  | .socket _ => .error .noSuchDevice
  | .link _ => .error .tooManyLinks

/-- Whether a path can be opened at all. A directory can, though it cannot be read. -/
def checkOpen (t : FileTree) (p : Path) : Except SystemError Unit := do
  match ← t.lookup p true with
  | .file _ | .directory _ => .ok ()
  | .socket _ => .error .noSuchDevice
  | .link _ => .error .tooManyLinks

/-- The text that octets stand for. -/
def textOf (octets : ByteArray) : Except SystemError String :=
  match String.fromUTF8? octets with
  | some text => .ok text
  | none => .error .notText

/-- The text of a file. -/
def readText (t : FileTree) (p : Path) : Except SystemError String := do
  textOf (← t.read p)

/-- The names in a directory. -/
def names (t : FileTree) (p : Path) : Except SystemError (List String) := do
  match ← t.lookup p true with
  | .directory entries => .ok (entries.map Prod.fst)
  | _ => .error .notADirectory

/-- The target of a symbolic link; `none` when there is no link. -/
def linkTarget? (t : FileTree) (p : Path) : Option String :=
  match t.lookup p false with
  | .ok (.link target) => some target
  | _ => none

/-- Whether a path stands for a directory. -/
def isDirectory (t : FileTree) (p : Path) : Bool :=
  match t.lookup p true with
  | .ok (.directory _) => true
  | _ => false

/-! ### Changing -/

/-- The entries with `name` standing for `child`, at its old position if it has one. -/
def put (name : String) (child : FileTree) : List (String × FileTree) → List (String × FileTree)
  | [] => [(name, child)]
  | (n, c) :: rest => if n = name then (n, child) :: rest else (n, c) :: put name child rest

/-- The tree with `new` at a place. Directories that are missing on the way are made, and what
stands in the way gives place to them. -/
def insert (t : FileTree) (new : FileTree) : List String → FileTree
  | [] => new
  | name :: rest =>
    let entries := match t with
      | .directory entries => entries
      | _ => []
    let child := (entries.lookup name).getD empty
    .directory (put name (child.insert new rest) entries)

/-- The tree without what stands at a place. -/
def erase (t : FileTree) : List String → FileTree
  | [] => t
  | name :: rest =>
    match t with
    | .directory entries =>
      if rest = [] then .directory (entries.filter fun e => e.1 ≠ name)
      else
        match entries.lookup name with
        | some child => .directory (put name (child.erase rest) entries)
        | none => t
    | _ => t

end FileTree

end FlowAudit
