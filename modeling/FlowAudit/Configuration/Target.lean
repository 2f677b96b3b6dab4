import FlowAudit.Configuration
import FlowAudit.Json.Field

/-!
# Targets of sinks as they are written

A target is written as a kind and the fields of that kind, in any order and with other fields among
them, or as a list of the kind and the values of its fields. A field may also be given by its number
in place of its name. All fields are texts; only the path of a local socket may be missing.

`SinkTarget.ofForm?` reads what is common to all notations; `SinkTarget.ofJson?` is the one of JSON.
-/

namespace FlowAudit.SinkTarget

/-- The name that a member of a written target has. -/
inductive MemberName where
  | text (name : String)
  /-- The number of a field. -/
  | number (index : Nat)
  /-- A value that can name no field. -/
  | other
  deriving DecidableEq, Repr, Inhabited

/-- A written target. Values are given by their texts, if they are texts. -/
inductive Form where
  | members (members : List (MemberName × Option String))
  | items (values : List (Option String))
  deriving DecidableEq, Repr, Inhabited

/-- The name of the field that holds the kind. -/
def kindField : String := "kind"

/-- The fields of each kind of target, in order. -/
def fieldNames : SinkKind → List String
  | .syslogLocal => ["path"]
  | .syslogTcp | .syslogUdp => ["address"]
  | .searchIndex => ["url", "index"]
  | .customEndpoint => ["url"]

/-- The target with the given texts in its fields. -/
def ofFields? : SinkKind → List (Option String) → Option SinkTarget
  | .syslogLocal, [some path] => some (.syslogLocal ⟨path⟩)
  | .syslogLocal, [none] | .syslogLocal, [] => some (.syslogLocal defaultSyslogSocket)
  | .syslogTcp, [some address] => (Endpoint.parse? address.toList).map .syslogTcp
  | .syslogUdp, [some address] => (Endpoint.parse? address.toList).map .syslogUdp
  | .searchIndex, [some url, some index] => some (.searchIndex url index)
  | .customEndpoint, [some url] => some (.customEndpoint url)
  | _, _ => none

/-- Puts the value of a member where its field is; members that are no field are passed over. A field
that is given twice is refused. -/
def putMember? (names : List String) (values : List (Option String))
    (m : MemberName × Option String) : Option (List (Option String)) :=
  let index : Option Nat := match m.1 with
    | .text name => names.idxOf? name
    | .number index => if index < names.length then some index else none
    | .other => none
  match m.1, index with
  | .other, _ => none
  | _, none => some values
  | _, some i =>
    match values[i]?, m.2 with
    | some none, some text => some (values.set i (some text))
    | _, _ => none

/-- Reads a written target. -/
def ofForm? : Form → Option SinkTarget
  | .members members => do
    let (kinds, others) := members.partition (·.1 = .text kindField)
    match kinds with
    | [(_, some key)] =>
      let kind ← SinkKind.ofKey? key
      let names := fieldNames kind
      ofFields? kind (← others.foldlM (putMember? names) (names.map fun _ => none))
    | _ => none
  | .items (some key :: values) => do
    let kind ← SinkKind.ofKey? key
    if values.all (·.isSome) then ofFields? kind values else none
  | .items _ => none

/-! ### JSON -/

/-- The texts in the fields of a target. -/
def fieldValues : SinkTarget → List String
  | .syslogLocal path => [path.text]
  | .syslogTcp address | .syslogUdp address => [address.render]
  | .searchIndex url index => [url, index]
  | .customEndpoint url => [url]

/-- The JSON object of a target. -/
def toJson (t : SinkTarget) : Json :=
  .object ((kindField, .string t.kind.key) ::
    (fieldNames t.kind).zip (t.fieldValues.map .string))

/-- Reads a target; its value is taken in as a whole. -/
def ofJson? (j : Json) : Option SinkTarget :=
  if j.isPlain Json.maxDepth then
    match j with
    | .object members => ofForm? (.members (members.map fun m => (.text m.1, m.2.text?)))
    | .array items => ofForm? (.items (items.map Json.text?))
    | _ => none
  else
    none

end FlowAudit.SinkTarget
