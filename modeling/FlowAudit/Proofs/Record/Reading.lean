import Mathlib.Data.List.Nodup
import FlowAudit.Connection.Json
import FlowAudit.Proofs.Json.Reading
import FlowAudit.Proofs.Net.Notation
import FlowAudit.Proofs.Record
import FlowAudit.Proofs.Timestamp
import FlowAudit.Proofs.Uuid

/-!
# Records read back

`Record.Wire` is what the text of a record says, and `Record.Wire.ofJson?` reads it of a JSON
object. The text of every record is read as the object that it was written from, and of that object
as what the record says (`Record.ofJson?_toJson`), so nothing that an event tells is lost or changed
on its way through the text (`Record.ofJson?_of_render`). The phase is no part of it.
-/

namespace FlowAudit

/-! ### Parts of a record -/

namespace Json

theorem unsigned?_ofNat {bits n : Nat} (hn : n < Nat.pow 2 bits) :
    unsigned? bits (ofNat n) = some n := by
  have hle : n ≤ Text.maxOfBits bits := Nat.le_sub_one_of_lt hn
  simp [unsigned?, ofNat, hle]

/-- An integer is told by its sign and its magnitude. -/
theorem toInt?_whole (n : Int) : (Number.whole (n < 0) n.natAbs).toInt? = some n := by
  cases n with
  | ofNat n =>
    have hsign : decide (Int.ofNat n < 0) = false :=
      decide_eq_false (Int.not_lt.mpr (Int.natCast_nonneg n))
    rw [hsign]
    rfl
  | negSucc n =>
    have hsign : decide (Int.negSucc n < 0) = true := decide_eq_true (Int.negSucc_lt_zero n)
    rw [hsign]
    rfl

theorem mapM_text? (texts : List String) :
    texts.mapM (text? ∘ Json.string) = some texts := by
  induction texts with
  | nil => rfl
  | cons text texts ih => simp [ih, text?]

end Json

namespace Connection

theorem addressOfJson?_render (x : IpAddress) :
    addressOfJson? (.string x.render) = some x := by
  simp [addressOfJson?, Json.text?, IpAddress.parse?_render]

theorem portOfJson?_ofNat (p : Port) : portOfJson? (.ofNat p.toNat) = some p := by
  rw [portOfJson?, Json.unsigned?_ofNat p.toNat_lt, Option.map_some]
  exact congrArg some (UInt16.ofNat_toNat)

end Connection

namespace ConnectionHash

/-- A hash is what its signed reading stands for, modulo `2 ^ 64`. -/
theorem signed_emod (h : ConnectionHash) : h.signed % UInt64.size = h.value.toNat := by
  have hsigned : h.signed = Int.bmod h.value.toNat UInt64.size :=
    BitVec.toInt_eq_toNat_bmod h.value.toBitVec
  have hlt := h.value.toNat_lt
  rw [hsigned, Int.bmod_emod]
  exact Int.emod_eq_of_lt (Int.natCast_nonneg _) (Int.ofNat_lt.mpr hlt)

theorem signed_range (h : ConnectionHash) :
    Int64.minValue.toInt ≤ h.signed ∧ h.signed ≤ Int64.maxValue.toInt :=
  ⟨Int64.minValue_le_toInt _, Int64.toInt_le _⟩

end ConnectionHash

namespace Record

/-! ### What a record says -/

/-- What the text of a record says. -/
structure Wire where
  id : Uuid
  agent : Uuid
  hash : ConnectionHash
  timestamp : String
  connection : Connection
  owner : Option Owner
  deriving DecidableEq, Repr

/-- What a record says: all of it but the phase, and the point in time by its text. -/
def wire (r : Record) : Wire :=
  ⟨r.id, r.agent, r.hash, r.timestamp.render, r.connection, r.owner⟩

/-! ### Reading -/

namespace Wire

/-- Reads an identifier. -/
def uuid? (j : Json) : Option Uuid := do
  Uuid.parse? (← j.text?).toList

/-- Reads a hash, which is given modulo `2 ^ 64` by a signed number of sixty-four bits. -/
def hash? : Json → Option ConnectionHash
  | .number n => do
    let value ← n.toInt?
    if Int64.minValue.toInt ≤ value && value ≤ Int64.maxValue.toInt then
      some ⟨UInt64.ofInt value⟩
    else
      none
  | _ => none

/-- Reads the process that a record names, if it names one: a record that does has a user and
details, and the name of the user if that is known; one that does not has none of these. -/
def owner? (j : Json) : Option (Option Owner) :=
  match j.member? "username", j.member? "uid", j.member? "program_details" with
  | none, none, none => some none
  | username, some uid, some details => do
    let process : Attribution := {
      pid := UInt32.ofNat (← (← details.member? "pid").unsigned? 32)
      processName := ← (← details.member? "process_name").text?
      commandLine := ← (← (← details.member? "command_line").items?).mapM Json.text?
      uid := UInt32.ofNat (← uid.unsigned? 32)
      username := ← Json.optional? Json.text? username }
    return some ⟨UInt64.ofNat (← (← details.member? "inode").unsigned? 64), process⟩
  | _, _, _ => none

/-- Reads what a record says. -/
def ofJson? (j : Json) : Option Wire := do
  return {
    id := ← uuid? (← j.member? "uuid")
    agent := ← uuid? (← j.member? "agent")
    hash := ← hash? (← j.member? "hash")
    timestamp := ← (← j.member? "timestamp").text?
    connection := {
      protocol := ← Protocol.ofName? (← (← j.member? "protocol").text?)
      sourceAddress := ← Connection.addressOfJson? (← j.member? "source")
      sourcePort := ← Connection.portOfJson? (← j.member? "source_port")
      destinationAddress := ← Connection.addressOfJson? (← j.member? "destination")
      destinationPort := ← Connection.portOfJson? (← j.member? "destination_port") }
    owner := ← owner? j }

theorem uuid?_render (u : Uuid) : uuid? (.string u.render) = some u := by
  simp [uuid?, Json.text?, Uuid.parse?_render]

theorem hash?_signed (h : ConnectionHash) : hash? (.ofInt h.signed) = some h := by
  have hrange : (decide (Int64.minValue.toInt ≤ h.signed) &&
      decide (h.signed ≤ Int64.maxValue.toInt)) = true := by
    rw [Bool.and_eq_true, decide_eq_true_eq, decide_eq_true_eq]
    exact h.signed_range
  have hvalue : UInt64.ofInt h.signed = h.value := calc
    UInt64.ofInt h.signed = UInt64.ofNat (h.signed % UInt64.size).toNat := rfl
    _ = h.value := by rw [h.signed_emod, Int.toNat_natCast, UInt64.ofNat_toNat]
  rw [Json.ofInt, hash?, Json.toInt?_whole]
  exact (if_pos hrange).trans (by rw [hvalue])

end Wire

/-! ### Reading what was written -/

/-- A record holds no strings without a text. -/
theorem shown_toJson (r : Record) : r.toJson.shown = r.toJson := by
  have hitems (texts : List String) :
      Json.shownItems (texts.map Json.string) = texts.map Json.string := by
    induction texts with
    | nil => rfl
    | cons text texts ih => rw [List.map_cons, Json.shownItems, ih, Json.shown]
  cases howner : r.owner with
  | none =>
    simp [toJson, members, howner, Json.shown, Json.shownMembers, Json.ofInt, Json.ofNat]
  | some o =>
    cases husername : o.process.username <;>
      simp [toJson, members, howner, Owner.members, husername, Json.shown, Json.shownMembers,
        hitems, Json.ofInt, Json.ofNat]

theorem owner?_toJson (r : Record) : Wire.owner? r.toJson = some r.owner := by
  cases howner : r.owner with
  | none => simp [Wire.owner?, toJson, members, howner, Json.member?, List.lookup_cons]
  | some o =>
    obtain ⟨inode, pid, name, arguments, uid, username⟩ := o
    have hnumbers : Json.unsigned? 64 (.ofNat inode.toNat) = some inode.toNat ∧
        Json.unsigned? 32 (.ofNat pid.toNat) = some pid.toNat ∧
        Json.unsigned? 32 (.ofNat uid.toNat) = some uid.toNat :=
      ⟨Json.unsigned?_ofNat inode.toNat_lt, Json.unsigned?_ofNat pid.toNat_lt,
        Json.unsigned?_ofNat uid.toNat_lt⟩
    cases username <;>
      simp [Wire.owner?, toJson, members, howner, Owner.members, Json.member?, List.lookup_cons,
        Json.text?, Json.items?, Json.optional?, Json.mapM_text?, hnumbers]

/-- The members that every record has. -/
theorem member?_toJson (r : Record) :
    r.toJson.member? "uuid" = some (.string r.id.render) ∧
    r.toJson.member? "agent" = some (.string r.agent.render) ∧
    r.toJson.member? "hash" = some (.ofInt r.hash.signed) ∧
    r.toJson.member? "timestamp" = some (.string r.timestamp.render) ∧
    r.toJson.member? "protocol" = some (.string r.connection.protocol.name) ∧
    r.toJson.member? "source" = some (.string r.connection.sourceAddress.render) ∧
    r.toJson.member? "destination" = some (.string r.connection.destinationAddress.render) ∧
    r.toJson.member? "source_port" = some (.ofNat r.connection.sourcePort.toNat) ∧
    r.toJson.member? "destination_port" = some (.ofNat r.connection.destinationPort.toNat) := by
  simp [toJson, members, Json.member?, List.lookup_cons]

/-- What is read of the JSON object is what the record says. -/
theorem ofJson?_toJson (r : Record) : Wire.ofJson? r.toJson = some r.wire := by
  simp [Wire.ofJson?, r.member?_toJson, r.owner?_toJson, Wire.uuid?_render, Wire.hash?_signed,
    Json.text?, Connection.addressOfJson?_render, Connection.portOfJson?_ofNat,
    Protocol.ofName?_name, wire]

/-! ### Which members there are -/

variable {agent : Uuid} {e : Event} {r : Record}

/-- The names of the members that every record has. -/
def commonNames : List String :=
  ["uuid", "agent", "hash", "timestamp", "protocol", "source", "destination", "source_port",
    "destination_port"]

/-- A member that not every record has is there for the process. -/
theorem mem_keys_iff {name : String} : name ∈ r.keys ↔ name ∈ commonNames ∨
    ∃ o, r.owner = some o ∧ (name = "username" ∧ o.process.username.isSome ∨
      name = "uid" ∨ name = "program_details") := by
  cases howner : r.owner with
  | none => simp [keys, members, howner, commonNames]
  | some o =>
    cases husername : o.process.username <;>
      simp [keys, members, howner, Owner.members, husername, commonNames, or_assoc]

theorem nodup_keys (r : Record) : r.keys.Nodup := by
  cases howner : r.owner with
  | none => simp [keys, members, howner]
  | some o =>
    cases husername : o.process.username <;>
      simp [keys, members, howner, Owner.members, husername]

/-! ### Records of events -/

/-- The text of the record of an event is the text of a JSON object, of which all is read that the
event tells but its phase: the identifiers, the hash, the point in time by its text, which tells the
point, the connection, and the process if the event is an OPEN whose process is known. The process
has members of its own, which are there only then, the name of the user only if it is known; no name
of a member occurs twice, and no member is named for the phase. -/
theorem ofJson?_of_render (agent : Uuid) (e : Event) :
    ∃ members, Json.parse? (ofEvent agent e).render = some (.object members) ∧
      Wire.ofJson? (.object members) = some {
        id := e.id
        agent
        hash := e.hash
        timestamp := e.timestamp.render
        connection := e.connection
        owner := match e.phase with
          | .opened => e.resolution.attribution.map fun a => ⟨e.resolution.inode.getD 0, a⟩
          | .closed => none } ∧
      (∃ n, members.lookup "hash" = some (.ofInt n) ∧ Int64.minValue.toInt ≤ n ∧
        n ≤ Int64.maxValue.toInt ∧ n % UInt64.size = e.hash.value.toNat) ∧
      (e.timestamp.IsProper →
        Timestamp.parse? e.timestamp.render.toList = some e.timestamp) ∧
      (members.map Prod.fst).Nodup ∧
      ("program_details" ∈ members.map Prod.fst ↔
        e.phase = .opened ∧ e.resolution.attribution.isSome) ∧
      ("uid" ∈ members.map Prod.fst ↔ e.phase = .opened ∧ e.resolution.attribution.isSome) ∧
      ("username" ∈ members.map Prod.fst ↔
        e.phase = .opened ∧ ∃ a ∈ e.resolution.attribution, a.username.isSome) ∧
      "phase" ∉ members.map Prod.fst := by
  have hparse : Json.parse? (ofEvent agent e).render =
      some (.object (ofEvent agent e).members) := by
    rw [render, Json.parse?_render, shown_toJson, toJson]
  have hkeys (name : String) : name ∈ (ofEvent agent e).members.map Prod.fst ↔
      name ∈ commonNames ∨ e.phase = .opened ∧ ∃ a ∈ e.resolution.attribution,
        (name = "username" ∧ a.username.isSome ∨ name = "uid" ∨ name = "program_details") := by
    refine mem_keys_iff.trans (or_congr_right ?_)
    cases hphase : e.phase with
    | opened => simp [owner_ofEvent hphase]
    | closed => simp [owner_ofEvent_closed hphase]
  have hhash : ∃ n, (ofEvent agent e).members.lookup "hash" = some (.ofInt n) ∧
      Int64.minValue.toInt ≤ n ∧ n ≤ Int64.maxValue.toInt ∧ n % UInt64.size = e.hash.value.toNat :=
    ⟨e.hash.signed, rfl, e.hash.signed_range.1, e.hash.signed_range.2, e.hash.signed_emod⟩
  refine ⟨(ofEvent agent e).members, hparse, ofJson?_toJson _, hhash, Timestamp.parse?_render,
    nodup_keys _, ?_, ?_, ?_, ?_⟩
  · simp [hkeys, commonNames, Option.isSome_iff_exists]
  · simp [hkeys, commonNames, Option.isSome_iff_exists]
  · simp [hkeys, commonNames]
  · simp [hkeys, commonNames]

end Record

end FlowAudit
