import FlowAudit.Connection.Hash
import FlowAudit.Timestamp
import FlowAudit.Uuid

/-!
# Transitions and events

A transition is what a comparison of two states of the connection-tracking table shows: a connection
opened, or it closed. An event is a transition with an identity: the OPEN and the CLOSE of the same
lifetime of a connection share an identifier.
-/

namespace FlowAudit

/-- A connection that opened or closed. -/
structure Transition where
  phase : Phase
  connection : Connection
  deriving DecidableEq, Repr, Inhabited

/-- What is found about the process behind a connection. -/
structure Resolution where
  /-- The inode of the connection's socket. -/
  inode : Option UInt64 := none
  attribution : Option Attribution := none
  deriving DecidableEq, Repr, Inhabited

/-- The resolution of a connection about which nothing is found. -/
def Resolution.unresolved : Resolution := {}

/-- A transition with its identity and, for an OPEN, what is found about its process. -/
structure Event where
  connection : Connection
  phase : Phase
  hash : ConnectionHash
  /-- The identifier that the records of one lifetime share. -/
  id : Uuid
  timestamp : Timestamp
  /-- When the event was observed, on the monotonic clock in milliseconds. -/
  observedAt : Nat
  resolution : Resolution
  deriving DecidableEq, Repr, Inhabited

end FlowAudit
