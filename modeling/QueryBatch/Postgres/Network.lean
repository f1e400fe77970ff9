import QueryBatch.Clock
import QueryBatch.Postgres.Row

/-!
# Connections to a server

What the driver needs from a network: to open connections, known by numbers, to post requests on
them, and to wait for the replies, which come in the order of the requests. Posting takes no time;
opening and waiting do, and give way to a cut-off.
-/

namespace QueryBatch
namespace Postgres

/-- Why there is no connection, or no answer to a request. -/
inductive Fault
  /-- The server answered with an error. -/
  | refused
  /-- The connection is closed. -/
  | closed
  /-- A script that the client cannot write. -/
  | unwritable
  /-- A statement that the client cannot write. -/
  | malformed
  /-- Nobody listens there. -/
  | unreachable
  /-- No encrypted connection could be agreed on. -/
  | handshake
  deriving DecidableEq, Repr, Inhabited

/-- The wording of a fault. -/
def Fault.message : Fault → String
  | .refused => "db error"
  | .closed => "connection closed"
  | .unwritable => "error encoding message to server"
  | .malformed => "error parsing response from server"
  | .unreachable => "error connecting to server"
  | .handshake => "error performing TLS handshake"

/-- What is asked of a server. -/
inductive Request
  /-- To run a script without parameters. -/
  | script (text : String)
  /-- To run a statement with parameters. -/
  | statement (sql : Sql)

/-- What a server answers to a request: rows, and the number of affected rows if it is told. -/
structure Reply where
  rows : List Row := []
  affected : Option Nat := none
  deriving Inhabited

/-- A network with states `ν`. A request that was posted on a connection is known by
a ticket. -/
structure Network (ν : Type) where
  /-- Open a connection. -/
  connect : {S : Type} → Work ν S (Except Fault Nat)
  /-- Whether a connection is open. -/
  isOpen : ν → Nat → Bool
  /-- Post a request on a connection at a moment, which is possible while it is open. -/
  post : Nat → Nat → Request → ν → Nat × ν
  /-- Wait for the reply to the request of a ticket on a connection. -/
  await : {S : Type} → Nat → Nat → Work ν S (Except Fault Reply)
  /-- Let a connection go. -/
  leave : Nat → ν → ν
  /-- Catch up with what happened before now. -/
  settle : {S : Type} → World ν S → World ν S

/-- A network on which nobody listens. -/
def Network.silent : Network Unit where
  connect := return .error .unreachable
  isOpen := fun _ _ => false
  post := fun _ _ _ network => (0, network)
  await := fun _ _ => return .error .closed
  leave := fun _ network => network
  settle := fun world => world

end Postgres
end QueryBatch
