import FlowAudit.Host.FileTree

/-!
# Local sockets

A local socket has a name among the files and takes datagrams as long as the process that made it
listens. Whoever is connected to a socket is so by its number and not by its name: a socket that is
made anew under the same name is another one.
-/

namespace FlowAudit

/-- The files of the host, and which of its sockets take datagrams. -/
structure LocalSockets where
  files : FileTree
  /-- The numbers of the sockets that take datagrams. -/
  listening : List Nat
  /-- The largest datagram that a socket takes, in octets. -/
  maxDatagram : Nat
  deriving Inhabited

namespace LocalSockets

/-- The length from which on a path does not fit into a socket address, in octets. -/
def addressSize : Nat := 108

/-- The number of the socket that one connects to under a path. -/
def find (h : LocalSockets) (p : Path) : Except SystemError Nat := do
  if p.text.toList.contains '\x00' then .error .nulInSocketPath
  else if p.text.utf8ByteSize ≥ addressSize then .error .socketPathTooLong
  else if p.text = "" then .error .invalidArgument
  else
    match ← h.files.lookup p true with
    | .socket number => if number ∈ h.listening then .ok number else .error .connectionRefused
    | _ => .error .connectionRefused

end LocalSockets

end FlowAudit
