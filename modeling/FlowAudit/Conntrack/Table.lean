import FlowAudit.Connection

/-!
# The kernel's connection-tracking table

A row names a connection twice, in the original direction and in the direction of the replies, as
in

`ipv4 2 tcp 6 431999 ESTABLISHED src=10.0.0.8 dst=1.1.1.1 sport=1 dport=80 src=1.1.1.1 …`

Four words open the row, the last of them being the number of the protocol. Of each of the keys
`src`, `dst`, `sport` and `dport` the first occurrence counts, and a row is read no further than to
the word that completes the four. A word without `=` in front of the first `src` may be the state of
the connection; in two states the connection is over although the kernel still lists it.

Blank rows are no rows. Rows of protocols that are not followed are left out, and rows that cannot
be read are counted; no row has any influence on how another one is read.
-/

namespace FlowAudit.Conntrack

/-- A connection listed in the table. -/
structure Entry where
  connection : Connection
  /-- Whether the connection is still established. -/
  live : Bool
  deriving DecidableEq, Repr, Inhabited

/-- What a row of the table holds. -/
inductive Row where
  | entry (entry : Entry)
  /-- A row of a protocol that is not followed. -/
  | untracked
  | malformed
  deriving DecidableEq, Repr, Inhabited

/-- The keys that name a connection. -/
inductive Key where
  | sourceAddress
  | destinationAddress
  | sourcePort
  | destinationPort
  deriving DecidableEq, Repr

/-- The key that a word names in front of its `=`. -/
def Key.ofWord? : List Char → Option Key
  | ['s', 'r', 'c'] => some .sourceAddress
  | ['d', 's', 't'] => some .destinationAddress
  | ['s', 'p', 'o', 'r', 't'] => some .sourcePort
  | ['d', 'p', 'o', 'r', 't'] => some .destinationPort
  | _ => none

/-- Whether a word is a state in which a connection is over. -/
def isOverState (word : List Char) : Bool :=
  word = "TIME_WAIT".toList || word = "CLOSE".toList

/-! ### Rows -/

/-- The values found in the words of a row read so far. -/
structure Fields where
  sourceAddress : Option IpAddress := none
  destinationAddress : Option IpAddress := none
  sourcePort : Option Port := none
  destinationPort : Option Port := none
  live : Bool := true
  deriving DecidableEq, Repr, Inhabited

namespace Fields

/-- Takes in a value for a key that has none yet; later values are ignored. `none` when a value that
counts cannot be read. -/
def put? (f : Fields) (key : Key) (value : List Char) : Option Fields :=
  match key with
  | .sourceAddress =>
    if f.sourceAddress.isSome then some f
    else (IpAddress.parse? value).map fun x => { f with sourceAddress := some x }
  | .destinationAddress =>
    if f.destinationAddress.isSome then some f
    else (IpAddress.parse? value).map fun x => { f with destinationAddress := some x }
  | .sourcePort =>
    if f.sourcePort.isSome then some f
    else (Text.word16? value).map fun p => { f with sourcePort := some p }
  | .destinationPort =>
    if f.destinationPort.isSome then some f
    else (Text.word16? value).map fun p => { f with destinationPort := some p }

/-- Takes in a word of the row. `none` when the word holds a value that counts and cannot be
read. -/
def read? (f : Fields) (word : List Char) : Option Fields :=
  match Text.splitOnce? '=' word with
  | none =>
    some (if f.sourceAddress.isNone && isOverState word then { f with live := false } else f)
  | some (key, value) =>
    match Key.ofWord? key with
    | some key => f.put? key value
    | none => some f

/-- The entry that the values make up once all four are there. -/
def entry? (f : Fields) (protocol : Protocol) : Option Entry := do
  return ⟨⟨protocol, ← f.sourceAddress, ← f.sourcePort, ← f.destinationAddress,
    ← f.destinationPort⟩, f.live⟩

/-- Reads words up to the one that completes the four values. -/
def scan? (protocol : Protocol) (f : Fields) : List (List Char) → Option Entry
  | [] => none
  | word :: rest => do
    let f ← f.read? word
    match f.entry? protocol with
    | some e => some e
    | none => scan? protocol f rest

end Fields

/-- Reads the words of a row. -/
def Row.ofWords : List (List Char) → Row
  | _ :: _ :: _ :: number :: rest =>
    match Text.byte? number with
    | none => .malformed
    | some n =>
      match Protocol.ofNumber? n.toNat with
      | none => .untracked
      | some protocol =>
        match Fields.scan? protocol {} rest with
        | some e => .entry e
        | none => .malformed
  | _ => .malformed

/-- Reads a row. -/
def Row.parse (line : List Char) : Row :=
  Row.ofWords (Text.words line)

/-- The connection listed in a row, if there is one. -/
def Row.entry? : Row → Option Entry
  | .entry e => some e
  | _ => none

/-! ### Tables -/

/-- What a table holds. -/
structure Table where
  /-- The connections listed, in the order of their rows. -/
  entries : List Entry
  /-- The number of rows that cannot be read. -/
  malformed : Nat
  deriving DecidableEq, Repr, Inhabited

/-- The rows of a table: its lines that are not blank. -/
def rows (text : List Char) : List Row :=
  ((Text.lines text).filter fun line => !(line.all Text.isBlank)).map Row.parse

/-- Reads a table. -/
def Table.parse (text : String) : Table :=
  let rows := rows text.toList
  ⟨rows.filterMap Row.entry?, rows.count .malformed⟩

end FlowAudit.Conntrack
