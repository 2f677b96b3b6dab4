import FlowAudit.Connection
import FlowAudit.Configuration

/-!
# Lines for log daemons

A record becomes one line of the form of RFC 3164, with the facility of user programs and a severity
by its phase. On a stream each line is preceded by its length in octets (RFC 6587), so lines stay
apart whatever they hold.
-/

namespace FlowAudit.Sink

/-- The facility of user programs. -/
def userFacility : Nat := 1

/-- The severity of records of a phase: informational for an OPEN, notice for a CLOSE. -/
def severity : Phase → Nat
  | .opened => 6
  | .closed => 5

/-- The priority of records of a phase. -/
def priority (phase : Phase) : Nat :=
  userFacility * 8 + severity phase

/-- The line of a message. `time` is the time as lines show it, `Mmm dd hh:mm:ss`. -/
def syslogLine (time host : String) (pid : Nat) (phase : Phase) (message : String) : String :=
  "<" ++ toString (priority phase) ++ ">" ++ time ++ " " ++ host ++ " " ++ programName ++ "[" ++
    toString pid ++ "]: " ++ message

/-- A line on a stream: its length in octets, a blank, and the line. -/
def octetFrame (line : String) : String :=
  toString line.utf8ByteSize ++ " " ++ line

/-- The largest datagram that can be sent over the network, in octets. -/
def maxNetworkDatagram : Nat := 65507

end FlowAudit.Sink
