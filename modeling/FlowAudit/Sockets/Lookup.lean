import FlowAudit.Sockets.Table

/-!
# Finding the socket behind an endpoint

A socket fits an endpoint in one of three ways, from best to worst: it is connected to the peer, it
is bound to the endpoint's address, or it is bound to every address of the host. The last way counts
only when the endpoint's address belongs to this host (`SocketTable.isLocal`), which whoever asks
without a peer vouches for. `SocketTable.find?` picks a socket that fits best; of several, one with
a known inode; of several of those, the last in the table.

Addresses are compared in canonical form throughout.
-/

namespace FlowAudit

/-- How well a socket fits an endpoint. -/
inductive Fit where
  /-- The socket takes traffic from any peer, to any address of the host. -/
  | wildcard
  /-- The socket takes traffic from any peer, to the endpoint's address. -/
  | bound
  /-- Both ends of the socket fit. -/
  | connected
  deriving DecidableEq, Repr, Inhabited

/-- The order of fits: a better one has a higher rank. -/
def Fit.rank : Fit → Nat
  | .wildcard => 0
  | .bound => 1
  | .connected => 2

namespace SocketTable

/-- Whether an address belongs to this host: it is a loopback address, or some socket is bound to
it. -/
def isLocal (t : SocketTable) (address : IpAddress) : Bool :=
  address.canonical.isLoopback ||
    t.sockets.any fun s => s.here.address.canonical = address.canonical

/-- How a socket fits an endpoint, and its peer if one is given; `none` when it does not. -/
def fit? (t : SocketTable) (endpoint : Endpoint) (peer : Option Endpoint) (s : Socket) :
    Option Fit :=
  let bound := s.isBound t.protocol
  let address := s.here.address.canonical
  if s.here.port ≠ endpoint.port then
    none
  else if address = endpoint.address.canonical then
    let connected := match peer with
      | some peer => s.remote.samePlace peer
      | none => !bound
    if connected then some .connected else if bound then some .bound else none
  else if address.isUnspecified && bound then
    if peer.isNone || t.isLocal endpoint.address then some .wildcard else none
  else
    none

/-- The place of a socket in the order of answers: by its fit, then by whether its inode is
known. -/
def rank (fit : Fit) (s : Socket) : Nat :=
  2 * fit.rank + (if s.inode = 0 then 0 else 1)

/-- The better one of the best socket so far and a further one that fits; the further one if both
are equally good. -/
def better (best : Option (Nat × Socket)) (fit : Fit) (s : Socket) : Option (Nat × Socket) :=
  match best with
  | some (r, _) => if r ≤ rank fit s then some (rank fit s, s) else best
  | none => some (rank fit s, s)

/-- The best socket, with its rank, of `best` and those of a list that fit. -/
def bestOf (t : SocketTable) (endpoint : Endpoint) (peer : Option Endpoint)
    (best : Option (Nat × Socket)) : List Socket → Option (Nat × Socket)
  | [] => best
  | s :: rest =>
    let best := match t.fit? endpoint peer s with
      | some fit => better best fit s
      | none => best
    t.bestOf endpoint peer best rest

/-- The socket that fits best. -/
def find? (t : SocketTable) (endpoint : Endpoint) (peer : Option Endpoint) : Option Socket :=
  (t.bestOf endpoint peer none t.sockets).map Prod.snd

end SocketTable

end FlowAudit
