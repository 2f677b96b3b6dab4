import FlowAudit.Connection
import FlowAudit.Host.FileTree
import FlowAudit.Text.Numeral

/-!
# The kernel's socket tables

The kernel lists the sockets of a protocol in two tables, one for each address family. A table
starts with a line of headings; each further line is a row of at least ten words, such as

`0: 0100007F:0016 00000000:0000 0A 00000000:00000000 00:00000000 00000000 0 0 16 1 …`

The second and the third word are the endpoints of the socket, the fourth its state, the eighth its
owner and the tenth its inode. An address is written as one or four words of thirty-two bits in
hexadecimal, least significant octet first. Rows that cannot be read are left out.
-/

namespace FlowAudit

/-- A socket listed in a table. -/
structure Socket where
  /-- The endpoint on this host. -/
  here : Endpoint
  /-- The endpoint of the peer; all zero for a socket without peer. -/
  remote : Endpoint
  state : UInt8
  /-- The user that owns the socket. -/
  uid : UInt32
  /-- The number by which processes hold the socket; zero while it has none. -/
  inode : UInt64
  deriving DecidableEq, Repr, Inhabited

namespace Socket

/-- The state of a TCP socket that waits for connections. -/
def listening : UInt8 := 0x0A

/-- Whether the socket has no peer. -/
def isUnconnected (s : Socket) : Bool :=
  s.remote.port = 0 && s.remote.address.isUnspecified

/-- Whether the socket takes traffic from any peer. -/
def isBound (protocol : Protocol) (s : Socket) : Bool :=
  match protocol with
  | .tcp => s.state = listening
  | .udp => s.isUnconnected

/-! ### Rows -/

/-- The octets of a word in hexadecimal, least significant first. -/
def octetsOfWord? (word : List Char) : Option (List UInt8) := do
  let n ← Text.unsigned? 16 (Text.maxOfBits 32) word
  return [UInt8.ofNat n, UInt8.ofNat (n / 0x100), UInt8.ofNat (n / 0x10000),
    UInt8.ofNat (n / 0x1000000)]

/-- The IPv6 address with the given octets. -/
def ipv6OfOctets? : List UInt8 → Option Ipv6
  | [a, b, c, d, e, f, g, h, i, j, k, l, m, n, o, p] =>
    some ⟨Ipv6.groupOfOctets a b, Ipv6.groupOfOctets c d, Ipv6.groupOfOctets e f,
      Ipv6.groupOfOctets g h, Ipv6.groupOfOctets i j, Ipv6.groupOfOctets k l,
      Ipv6.groupOfOctets m n, Ipv6.groupOfOctets o p⟩
  | _ => none

/-- Reads an address of one word or of four. -/
def address? (digits : List Char) : Option IpAddress :=
  if digits.length = 8 then do
    return .v4 (← Ipv4.ofOctets? (← octetsOfWord? digits))
  else if digits.length = 32 then do
    let a ← octetsOfWord? (digits.take 8)
    let b ← octetsOfWord? ((digits.drop 8).take 8)
    let c ← octetsOfWord? ((digits.drop 16).take 8)
    let d ← octetsOfWord? (digits.drop 24)
    return .v6 (← ipv6OfOctets? (a ++ b ++ c ++ d))
  else
    none

/-- Reads an address and a port, set apart by a colon. -/
def endpoint? (word : List Char) : Option Endpoint := do
  let (digits, port) ← Text.splitOnce? ':' word
  let port ← Text.unsigned? 16 (Text.maxOfBits 16) port
  return ⟨← address? digits, UInt16.ofNat port, 0⟩

/-- Reads the words of a row. -/
def ofWords? : List (List Char) → Option Socket
  | _ :: here :: remote :: state :: _ :: _ :: _ :: uid :: _ :: inode :: _ => do
    return {
      here := ← endpoint? here
      remote := ← endpoint? remote
      state := UInt8.ofNat (← Text.unsigned? 16 (Text.maxOfBits 8) state)
      uid := UInt32.ofNat (← Text.unsigned? 10 (Text.maxOfBits 32) uid)
      inode := UInt64.ofNat (← Text.unsigned? 10 (Text.maxOfBits 64) inode) }
  | _ => none

/-- Reads the sockets of a table. -/
def parseTable (text : String) : List Socket :=
  ((Text.lines text.toList).drop 1).filterMap fun line => ofWords? (Text.words line)

end Socket

/-! ### All sockets of a protocol -/

/-- The sockets of a protocol, in the order of its tables. -/
structure SocketTable where
  protocol : Protocol
  sockets : List Socket
  deriving DecidableEq, Repr, Inhabited

namespace SocketTable

/-- Reads the sockets of the tables with the given names. A table that does not exist lists no
socket. -/
def readSockets (host : FileTree) (proc : Path) : List String → Except SystemError (List Socket)
  | [] => .ok []
  | name :: rest =>
    match host.readText (proc.join ("net/" ++ name)) with
    | .ok text => do return Socket.parseTable text ++ (← readSockets host proc rest)
    | .error .notFound => readSockets host proc rest
    | .error e => .error e

/-- Reads the sockets of a protocol below the directory `proc`; fails when a table exists and cannot
be read. -/
def read (host : FileTree) (proc : Path) (protocol : Protocol) : Except SystemError SocketTable := do
  return ⟨protocol, ← readSockets host proc protocol.socketTables⟩

end SocketTable

end FlowAudit
