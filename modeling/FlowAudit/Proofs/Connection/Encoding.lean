import FlowAudit.Connection.Hash
import FlowAudit.Proofs.Net.Notation

/-!
# Connections that share a hash

An address is written as the octet of its family and as many octets as the family says, so where it
ends is told by its first octet, and what stands behind it does not matter (`encode_append_inj`).
Hence the encoding of a connection can be taken apart, field by field, and two connections have the
same one exactly if they are the same up to mapped addresses (`Connection.encode_eq_iff`).

A hash is the number that the first eight octets of SHA-256 make up, and these octets can be told
from it (`eq_of_ofOctets_eq`). So two connections that are not the same share a hash exactly if
their encodings are messages that SHA-256, cut off behind eight octets, does not tell apart
(`ConnectionHash.of_eq_iff`).
-/

namespace FlowAudit

/-! ### Octets -/

theorem Ipv4.octets_inj {x y : Ipv4} (h : x.octets = y.octets) : x = y := by
  have hread := congrArg Ipv4.ofOctets? h
  rw [ofOctets?_octets, ofOctets?_octets] at hread
  exact Option.some.inj hread

namespace Ipv6

theorem octetsOfGroup_inj {g g' : UInt16} (h : octetsOfGroup g = octetsOfGroup g') : g = g' := by
  have hhigh : (g >>> 8).toUInt8 = (g' >>> 8).toUInt8 := (List.cons.inj h).1
  have hlow : g.toUInt8 = g'.toUInt8 := (List.cons.inj (List.cons.inj h).2).1
  rw [← groupOfOctets_octets g, ← groupOfOctets_octets g', hhigh, hlow]

theorem flatMap_octetsOfGroup_inj {l l' : List UInt16} (hlength : l.length = l'.length)
    (h : l.flatMap octetsOfGroup = l'.flatMap octetsOfGroup) : l = l' := by
  induction l generalizing l' with
  | nil => exact (List.length_eq_zero_iff.mp hlength.symm).symm
  | cons g l ih =>
    cases l' with
    | nil => cases hlength
    | cons g' l' =>
      rw [List.flatMap_cons, List.flatMap_cons] at h
      obtain ⟨hfirst, hrest⟩ := List.append_inj h rfl
      rw [octetsOfGroup_inj hfirst, ih (Nat.succ.inj hlength) hrest]

theorem octets_inj {x y : Ipv6} (h : x.octets = y.octets) : x = y := by
  have hgroups : x.groups = y.groups := flatMap_octetsOfGroup_inj rfl h
  have hread := congrArg ofGroups? hgroups
  rw [ofGroups?_groups, ofGroups?_groups] at hread
  exact Option.some.inj hread

end Ipv6

/-! ### Encodings -/

/-- An encoded address can be told from what stands behind it. -/
theorem IpAddress.encode_append_inj {x y : IpAddress} {r r' : List UInt8}
    (h : x.encode ++ r = y.encode ++ r') : x.canonical = y.canonical ∧ r = r' := by
  unfold encode at h
  cases hx : x.canonical with
  | v4 x =>
    cases hy : y.canonical with
    | v4 y =>
      rw [hx, hy] at h
      obtain ⟨hoctets, hrest⟩ := List.append_inj h rfl
      rw [Ipv4.octets_inj (List.cons.inj hoctets).2]
      exact ⟨rfl, hrest⟩
    | v6 y =>
      -- the octets of the families differ
      rw [hx, hy] at h
      exact absurd (List.cons.inj h).1 (by decide)
  | v6 x =>
    cases hy : y.canonical with
    | v4 y =>
      rw [hx, hy] at h
      exact absurd (List.cons.inj h).1 (by decide)
    | v6 y =>
      rw [hx, hy] at h
      obtain ⟨hoctets, hrest⟩ := List.append_inj h rfl
      rw [Ipv6.octets_inj (List.cons.inj hoctets).2]
      exact ⟨rfl, hrest⟩

theorem Protocol.number_inj {p q : Protocol} (h : p.number = q.number) : p = q := by
  have hread := congrArg (ofNumber? ∘ UInt8.toNat) h
  rw [Function.comp_apply, Function.comp_apply, ofNumber?_number, ofNumber?_number] at hread
  exact Option.some.inj hread

namespace Connection

variable {c d : Connection}

theorem canonical_eq_iff : c.canonical = d.canonical ↔ c.protocol = d.protocol ∧
    c.sourceAddress.canonical = d.sourceAddress.canonical ∧ c.sourcePort = d.sourcePort ∧
    c.destinationAddress.canonical = d.destinationAddress.canonical ∧
    c.destinationPort = d.destinationPort := by
  simp [canonical]

/-- The encoding says what a connection is, up to mapped addresses. -/
theorem encode_eq_iff : c.encode = d.encode ↔ c.canonical = d.canonical := by
  constructor
  · intro h
    unfold encode at h
    obtain ⟨hprotocol, hends⟩ := List.cons.inj h
    rw [List.append_assoc, List.append_assoc] at hends
    obtain ⟨hsource, hrest⟩ := IpAddress.encode_append_inj hends
    -- a port has two octets
    obtain ⟨hsourcePort, hrest⟩ := List.append_inj hrest rfl
    obtain ⟨hdestination, hdestinationPort⟩ := IpAddress.encode_append_inj hrest
    exact canonical_eq_iff.mpr ⟨Protocol.number_inj hprotocol, hsource,
      Ipv6.octetsOfGroup_inj hsourcePort, hdestination, Ipv6.octetsOfGroup_inj hdestinationPort⟩
  · intro h
    rw [← c.encode_canonical, ← d.encode_canonical, h]

end Connection

/-! ### Hashes -/

namespace Sha256

/-- Two messages are different, and the first octets of their hashes are not. -/
def Collide (octets : Nat) (message message' : List UInt8) : Prop :=
  message ≠ message' ∧ (hash message).take octets = (hash message').take octets

end Sha256

namespace ConnectionHash

/-- One more octet behind a number that has room for it. -/
theorem toNat_shiftLeft_or {n : UInt64} (o : UInt8) (hn : n.toNat < 2 ^ 56) :
    ((n <<< 8) ||| o.toUInt64).toNat = n.toNat * 256 + o.toNat := by
  have ho := o.toNat_lt
  have hshift : UInt64.toNat 8 % 64 = 8 := rfl
  simp only [UInt64.toNat_or, UInt64.toNat_shiftLeft, UInt8.toNat_toUInt64, hshift]
  rw [Nat.mod_eq_of_lt (by rw [Nat.shiftLeft_eq]; omega), ← Nat.shiftLeft_add_eq_or_of_lt ho,
    Nat.shiftLeft_eq]

/-- A number with octets put behind it. -/
def shiftIn (n : UInt64) (octets : List UInt8) : UInt64 :=
  octets.foldl (fun n o => (n <<< 8) ||| o.toUInt64) n

/-- As long as there is room, a number and the octets put behind it can be told from the result. -/
theorem shiftIn_inj {n n' : UInt64} {l l' : List UInt8} {count : Nat} (hlength : l.length = count)
    (hlength' : l'.length = count) (hcount : count ≤ 8) (hn : n.toNat < 2 ^ (8 * (8 - count)))
    (hn' : n'.toNat < 2 ^ (8 * (8 - count))) (h : shiftIn n l = shiftIn n' l') :
    n = n' ∧ l = l' := by
  -- induction on the octets, with any number in front of them
  induction count generalizing n n' l l' with
  | zero =>
    obtain rfl := List.length_eq_zero_iff.mp hlength
    obtain rfl := List.length_eq_zero_iff.mp hlength'
    exact ⟨h, rfl⟩
  | succ count ih =>
    obtain ⟨o, l, rfl⟩ := List.exists_cons_of_length_eq_add_one hlength
    obtain ⟨o', l', rfl⟩ := List.exists_cons_of_length_eq_add_one hlength'
    have hpow : 2 ^ (8 * (8 - count)) = 2 ^ (8 * (8 - (count + 1))) * 256 := by
      rw [show 8 * (8 - count) = 8 * (8 - (count + 1)) + 8 by omega, Nat.pow_add]
    have hle : 2 ^ (8 * (8 - (count + 1))) ≤ 2 ^ 56 :=
      Nat.pow_le_pow_right (by decide) (by omega)
    have hstep := toNat_shiftLeft_or o (Nat.lt_of_lt_of_le hn hle)
    have hstep' := toNat_shiftLeft_or o' (Nat.lt_of_lt_of_le hn' hle)
    have ho := o.toNat_lt
    have ho' := o'.toNat_lt
    have hfits : ((n <<< 8) ||| o.toUInt64).toNat < 2 ^ (8 * (8 - count)) := by omega
    have hfits' : ((n' <<< 8) ||| o'.toUInt64).toNat < 2 ^ (8 * (8 - count)) := by omega
    obtain ⟨hnext, rfl⟩ := ih (Nat.succ.inj hlength) (Nat.succ.inj hlength') (by omega) hfits
      hfits' h
    -- the octet is what is left of the number over 256
    have hsum := congrArg UInt64.toNat hnext
    rw [hstep, hstep'] at hsum
    have hnumber : n = n' := UInt64.toNat_inj.mp (by omega)
    have hoctet : o = o' := UInt8.toNat_inj.mp (by omega)
    rw [hnumber, hoctet]
    exact ⟨rfl, rfl⟩

/-- Eight octets can be told from the number that they make up. -/
theorem eq_of_ofOctets_eq {l l' : List UInt8} (hlength : l.length = 8) (hlength' : l'.length = 8)
    (h : ofOctets l = ofOctets l') : l = l' := by
  have hshift : shiftIn 0 l = shiftIn 0 l' := congrArg value h
  exact (shiftIn_inj hlength hlength' (Nat.le_refl 8) (by decide) (by decide) hshift).2

theorem of_eq_iff {c d : Connection} :
    of c = of d ↔ (Sha256.hash c.encode).take 8 = (Sha256.hash d.encode).take 8 := by
  have hlength (message : List UInt8) : ((Sha256.hash message).take 8).length = 8 := by
    rw [List.length_take, Sha256.length_hash]
    rfl
  exact ⟨eq_of_ofOctets_eq (hlength _) (hlength _), congrArg ofOctets⟩

end ConnectionHash

/-- Two connections have the same encoding exactly if they have the same protocol, the same
addresses in canonical form and the same ports. If so they have the same hash; if not they have the
same hash exactly if their encodings collide under SHA-256 cut off behind eight octets. -/
theorem Connection.hash_eq_iff_collide (c d : Connection) :
    (c.encode = d.encode ↔ c.protocol = d.protocol ∧
      c.sourceAddress.canonical = d.sourceAddress.canonical ∧ c.sourcePort = d.sourcePort ∧
      c.destinationAddress.canonical = d.destinationAddress.canonical ∧
      c.destinationPort = d.destinationPort) ∧
    (c.canonical = d.canonical → ConnectionHash.of c = ConnectionHash.of d) ∧
    (c.canonical ≠ d.canonical → (ConnectionHash.of c = ConnectionHash.of d ↔
      Sha256.Collide 8 c.encode d.encode)) := by
  refine ⟨encode_eq_iff.trans canonical_eq_iff, ?_, ?_⟩
  · intro h
    rw [ConnectionHash.of, ConnectionHash.of, encode_eq_iff.mpr h]
  · intro hne
    have hencode : c.encode ≠ d.encode := fun h => hne (encode_eq_iff.mp h)
    rw [ConnectionHash.of_eq_iff]
    exact ⟨fun h => ⟨hencode, h⟩, fun h => h.2⟩

example : Connection.encode ⟨.tcp, .v6 (Ipv4.toMapped ⟨172, 16, 144, 102⟩), 59325,
    .v4 ⟨104, 197, 3, 80⟩, 80⟩ =
      [6, 4, 172, 16, 144, 102, 0xE7, 0xBD, 4, 104, 197, 3, 80, 0, 80] := by
  decide

end FlowAudit
