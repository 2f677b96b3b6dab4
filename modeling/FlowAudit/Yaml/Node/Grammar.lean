import FlowAudit.Yaml.Node
import FlowAudit.Yaml.Token.Lexer

/-!
# From tokens to nodes

`Document.ofText?` reads a text with at most one document. Where a node is missing, such as the value
behind a colon at the end of a line, it is empty.

An anchor gets the number of different anchor names that are in use when it is met. A name that is
used again therefore may share its number with another name, and the later node counts for both.

The readers take a budget of steps. At most four readers call one another before a token is taken, so
four times the number of tokens is enough.
-/

namespace FlowAudit.Yaml

/-- What has been read of a document. -/
structure Reading where
  tokens : List Token
  /-- What the handles of tags stand for. -/
  handles : List (String × String)
  /-- The numbers of the anchor names in use. -/
  names : List (String × Nat) := []
  anchored : List Anchored := []
  size : Nat := 0

/-- A step that reads tokens and may fail. -/
abbrev Read := StateT Reading Option

namespace Read

/-! ### Single tokens -/

/-- The next token. -/
def peek : Read (Option Token) :=
  return (← get).tokens.head?

/-- Passes over the next token. -/
def skip : Read Unit :=
  modify fun r => { r with tokens := r.tokens.tail }

/-- Passes over the next token, which has to be `t`. -/
def expect (t : Token) : Read Unit := do
  if (← peek) = some t then skip else failure

/-- Whether the next token is one of those given. -/
def isNext (ts : List Token) : Read Bool := do
  match ← peek with
  | some t => return ts.contains t
  | none => return false

/-- Counts the start or the end of a node. -/
def count : Read Unit :=
  modify fun r => { r with size := r.size + 1 }

/-! ### Properties -/

/-- The tag with the given handle and rest. -/
def tagOf (handle suffix : String) : Read String := do
  if handle = noHandle then return suffix
  match (← get).handles.lookup handle with
  | some start => return start ++ suffix
  | none => failure

/-- Reads an anchor, if there is one. -/
def anchor : Read (Option String) := do
  match ← peek with
  | some (.anchor name) => skip; return some name
  | _ => return none

/-- Reads a tag, if there is one. -/
def tag : Read (Option String) := do
  match ← peek with
  | some (.tag handle suffix) => skip; return some (← tagOf handle suffix)
  | _ => return none

/-- Reads an anchor and a tag, in either order. -/
def properties : Read (Option String × Option String) := do
  match ← anchor with
  | some name => return (some name, ← tag)
  | none =>
    let tag ← tag
    return (← anchor, tag)

/-- Gives an anchor its number. -/
def nameAnchor (name : String) : Read Nat := do
  let r ← get
  let number := r.names.length
  let names := (name, number) :: r.names.filter (·.1 ≠ name)
  set { r with names }
  return number

/-! ### Nodes -/

/-- Reads nothing as a node. -/
def emptyNode : Read Node := do
  count
  return .empty

/-- Reads an alias. -/
def reference (name : String) : Read Node := do
  skip
  match (← get).names.lookup name with
  | some number => count; return .reference number
  | none => failure

/-- The tag of a scalar; an exclamation mark alone is none. -/
def scalarTag (tag : Option String) : Option String :=
  tag.filter (· ≠ "!")

/-- Passes over the comma in front of an item that is not the first. -/
def separator (first : Bool) (close : Token) : Read Unit := do
  if !first && !(← isNext [close]) then expect .flowEntry

mutual

/-- Reads a node. `inBlock` tells whether it may be a block collection, and `indentless` whether it may
be a block sequence that is not indented. -/
def node (inBlock indentless : Bool) : Nat → Read Node
  | 0 => failure
  | budget + 1 => do
    match ← peek with
    | some (.reference name) => reference name
    | _ =>
      let (name, tag) ← properties
      let position := (← get).size
      let number ← name.mapM nameAnchor
      let found ← content inBlock indentless (name.isSome || tag.isSome) tag budget
      match number with
      | some anchor => modify fun r => { r with anchored := ⟨anchor, position, found⟩ :: r.anchored }
      | none => pure ()
      return found

/-- Reads a node behind its properties; `described` tells whether there are any. -/
def content (inBlock indentless described : Bool) (tag : Option String) : Nat → Read Node
  | 0 => failure
  | budget + 1 => do
    count
    match ← peek with
    | some (.scalar style text) =>
      skip
      return .scalar (scalarTag tag) style text
    | some .flowSequenceStart =>
      skip
      return .sequence tag (← flowItems true budget)
    | some .flowMappingStart =>
      skip
      return .mapping tag (← flowMembers true budget)
    | next =>
      if indentless && next = some .blockEntry then
        return .sequence tag (← indentlessItems budget)
      else if inBlock && next = some .blockSequenceStart then
        skip
        return .sequence tag (← blockItems budget)
      else if inBlock && next = some .blockMappingStart then
        skip
        return .mapping tag (← blockMembers budget)
      else if described then
        return .scalar tag .plain ""
      else
        failure

/-- Reads the items of a block sequence. -/
def blockItems : Nat → Read (List Node)
  | 0 => failure
  | budget + 1 => do
    if ← isNext [.blockEnd] then
      skip
      count
      return []
    else
      expect .blockEntry
      let item ← if ← isNext [.blockEntry, .blockEnd] then emptyNode else node true false budget
      return item :: (← blockItems budget)

/-- Reads the items of a block sequence that is not indented. -/
def indentlessItems : Nat → Read (List Node)
  | 0 => failure
  | budget + 1 => do
    if ← isNext [.blockEntry] then
      skip
      let item ←
        if ← isNext [.blockEntry, .key, .value, .blockEnd] then emptyNode
        else node true false budget
      return item :: (← indentlessItems budget)
    else
      count
      return []

/-- Reads the members of a block mapping. -/
def blockMembers : Nat → Read (List (Node × Node))
  | 0 => failure
  | budget + 1 => do
    if ← isNext [.blockEnd] then
      skip
      count
      return []
    else
      expect .key
      let key ← blockPart budget
      let value ←
        if ← isNext [.value] then
          skip
          blockPart budget
        else
          emptyNode
      return (key, value) :: (← blockMembers budget)

/-- Reads a key or a value of a block mapping. -/
def blockPart : Nat → Read Node
  | 0 => failure
  | budget + 1 => do
    if ← isNext [.key, .value, .blockEnd] then emptyNode else node true true budget

/-- Reads the items of a sequence in brackets. -/
def flowItems (first : Bool) : Nat → Read (List Node)
  | 0 => failure
  | budget + 1 => do
    separator first .flowSequenceEnd
    if ← isNext [.flowSequenceEnd] then
      skip
      count
      return []
    else
      let item ← if ← isNext [.key] then flowPair budget else node false false budget
      return item :: (← flowItems false budget)

/-- Reads an item in brackets that is a mapping of one member. -/
def flowPair : Nat → Read Node
  | 0 => failure
  | budget + 1 => do
    skip
    count
    let key ←
      if ← isNext [.value, .flowEntry, .flowSequenceEnd] then
        -- what stands in the place of the key is passed over
        skip
        emptyNode
      else
        node false false budget
    let value ← flowValue .flowSequenceEnd budget
    count
    return .mapping none [(key, value)]

/-- Reads a value in brackets or braces, if there is one. -/
def flowValue (close : Token) : Nat → Read Node
  | 0 => failure
  | budget + 1 => do
    if ← isNext [.value] then
      skip
      if ← isNext [.flowEntry, close] then emptyNode else node false false budget
    else
      emptyNode

/-- Reads the members of a mapping in braces. -/
def flowMembers (first : Bool) : Nat → Read (List (Node × Node))
  | 0 => failure
  | budget + 1 => do
    separator first .flowMappingEnd
    if ← isNext [.flowMappingEnd] then
      skip
      count
      return []
    else
      let member ←
        if ← isNext [.key] then
          skip
          let key ←
            if ← isNext [.value, .flowEntry, .flowMappingEnd] then emptyNode
            else node false false budget
          pure (key, ← flowValue .flowMappingEnd budget)
        else
          -- a key without value
          let key ← node false false budget
          pure (key, ← emptyNode)
      return member :: (← flowMembers false budget)

end

/-! ### Documents -/

/-- The handles that need no directive. -/
def standardHandles : List (String × String) :=
  [(localHandle, "!"), ("!!", "tag:yaml.org,2002:")]

/-- Reads directives; `versioned` tells whether the version has been given. -/
def directives (versioned : Bool) : Nat → Read Unit
  | 0 => failure
  | budget + 1 => do
    match ← peek with
    | some (.version major minor) =>
      if versioned || major ≠ 1 || !(minor = 1 || minor = 2) then failure
      skip
      directives true budget
    | some (.tagHandle handle start) =>
      let r ← get
      if (r.handles.lookup handle).isSome then failure
      set { r with handles := (handle, start) :: r.handles }
      skip
      directives versioned budget
    | _ => modify fun r => { r with handles := r.handles ++ standardHandles }

/-- Whether a token stands in front of a document. -/
def isFront : Token → Bool
  | .version .. | .tagHandle .. | .documentStart => true
  | _ => false

/-- Whether a token cannot be part of a document. -/
def isOutside (t : Token) : Bool :=
  isFront t || t = .documentEnd

/-- Reads the marks behind a document; nothing else may follow. -/
def finish : Nat → Read Unit
  | 0 => failure
  | budget + 1 => do
    match ← peek with
    | none => return
    | some .documentEnd => skip; finish budget
    | some _ => failure

/-- Reads a text with at most one document. -/
def document (budget : Nat) : Read (Option Node) := do
  match ← peek with
  | none => return none
  | some first =>
    directives false budget
    let root ←
      if isFront first then
        expect .documentStart
        if (← peek).all isOutside then emptyNode else node true false budget
      else
        node true false budget
    finish budget
    return some root

end Read

/-- The document of a text. -/
def Document.ofText? (text : String) : Option Document := do
  let tokens ← Token.ofText? text
  let (root, r) ← (Read.document (4 * tokens.length + 4)).run ⟨tokens, [], [], [], 0⟩
  return ⟨root, r.anchored, r.size⟩

end FlowAudit.Yaml
