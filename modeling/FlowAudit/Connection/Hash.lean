import FlowAudit.Connection
import FlowAudit.Digest.Sha256

/-!
# The hash that ties the records of a connection together

`Connection.encode` writes a connection as octets: its protocol number, then for both endpoints the
family of the canonical address, its octets and the port. Connections with equal canonical forms
have equal encodings (`encode_canonical`), so whether the host reports a mapped address or the IPv4
address behind it makes no difference. The hash is the first eight octets of SHA-256 of the
encoding.
-/

namespace FlowAudit

/-- The octets of an address in canonical form, behind the octet 4 or 6 for its family. -/
def IpAddress.encode (x : IpAddress) : List UInt8 :=
  match x.canonical with
  | .v4 y => 4 :: y.octets
  | .v6 y => 6 :: y.octets

/-- The octets of a port. -/
def Port.encode (p : Port) : List UInt8 :=
  Ipv6.octetsOfGroup p

namespace Connection

/-- The octets that stand for a connection. -/
def encode (c : Connection) : List UInt8 :=
  c.protocol.number ::
    (c.sourceAddress.encode ++ Port.encode c.sourcePort ++
      (c.destinationAddress.encode ++ Port.encode c.destinationPort))

/-- Bringing the addresses into canonical form does not change the encoding. -/
theorem encode_canonical (c : Connection) : c.canonical.encode = c.encode := by
  simp [encode, canonical, IpAddress.encode, IpAddress.canonical_canonical]

end Connection

/-- The hash of a connection. -/
structure ConnectionHash where
  value : UInt64
  deriving DecidableEq, Hashable, Repr, Inhabited

namespace ConnectionHash

/-- The number whose digits in base 256 are the given octets, modulo `2 ^ 64`. -/
def ofOctets (octets : List UInt8) : ConnectionHash :=
  ⟨octets.foldl (fun n o => (n <<< 8) ||| o.toUInt64) 0⟩

/-- The hash of a connection. -/
def of (c : Connection) : ConnectionHash :=
  ofOctets ((Sha256.hash c.encode).take 8)

/-- The hash as sixteen hexadecimal digits. -/
def render (h : ConnectionHash) : String :=
  Text.hex 16 h.value.toNat

/-- The hash read as a signed number of sixty-four bits, as records carry it. -/
def signed (h : ConnectionHash) : Int :=
  h.value.toInt64.toInt

end ConnectionHash

end FlowAudit
