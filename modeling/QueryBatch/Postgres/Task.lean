import QueryBatch.Batch.Driver
import QueryBatch.Postgres.Network
import QueryBatch.Postgres.Pool

/-!
# Calls in pieces

A call to the driver is a `Task`. It acts at once, and now and then it waits: for a permit of the
pool, for a new connection, or for the reply to a request. It gives way to other calls only while it
waits, and only then can it be dropped; what is left to do in that case is attached to the wait.

`Task.work` runs a task by itself.
-/

namespace QueryBatch
namespace Postgres

/-- The pool, the transactions with the connections they hold, and the network. -/
structure State (ν : Type) where
  pool : Pool
  held : List (Nat × Live)
  nextTx : Nat
  network : ν

/-- The state before anything was done. -/
def State.start (options : PoolOptions) (network : ν) : State ν :=
  { pool := Pool.new options, held := [], nextTx := 0, network := network }

/-- What a call waits for. -/
inductive Wait
  /-- A permit of the pool. -/
  | permit
  /-- A new connection. -/
  | connection
  /-- The reply to the request of a ticket on a connection. -/
  | reply (connection ticket : Nat)
  deriving DecidableEq, Repr

/-- What a wait ends with. -/
abbrev Wait.Answer : Wait → Type
  | .permit => Except DriverError Unit
  | .connection => Except Fault Nat
  | .reply _ _ => Except Fault Reply

/-- A call in pieces. -/
inductive Task (ν S α : Type) : Type
  | done (a : α)
  /-- Look at the world and change it. -/
  | act (next : World (State ν) S → Task ν S α) (change : World (State ν) S → World (State ν) S)
  /-- Wait; if the call is dropped meanwhile, change the world. -/
  | wait (w : Wait) (next : w.Answer → Task ν S α) (dropped : World (State ν) S → World (State ν) S)

namespace Task

variable {ν S α β : Type}

/-- Go on with the answer of a task. -/
def andThen : Task ν S α → (α → Task ν S β) → Task ν S β
  | done a, f => f a
  | act next change, f => act (fun world => (next world).andThen f) change
  | wait w next dropped, f => wait w (fun a => (next a).andThen f) dropped

instance : Monad (Task ν S) where
  pure := done
  bind := andThen

/-- Look at the world. -/
def look (f : World (State ν) S → α) : Task ν S α := act (fun world => done (f world)) id

/-- Change the world. -/
def change (f : World (State ν) S → World (State ν) S) : Task ν S Unit := act (fun _ => done ()) f

/-- Change the world, with an answer. -/
def step (f : World (State ν) S → α × World (State ν) S) : Task ν S α :=
  act (fun world => done (f world).1) fun world => (f world).2

/-- Wait, with nothing to do if the call is dropped. -/
def await (w : Wait) : Task ν S w.Answer := wait w done id

/-- Attach what is left to do if a call is dropped. -/
def onDrop (leave : World (State ν) S → World (State ν) S) : Task ν S α → Task ν S α
  | done a => done a
  | act next change => act (fun world => (next world).onDrop leave) change
  | wait w next dropped =>
      wait w (fun a => (next a).onDrop leave) fun world => leave (dropped world)

end Task

/-- Change the network at once. -/
def changeNetwork (f : ν → ν) (world : World (State ν) S) : World (State ν) S :=
  { world with driver := { world.driver with network := f world.driver.network } }

/-- Change the pool at once. -/
def changePool (f : Pool → Pool) (world : World (State ν) S) : World (State ν) S :=
  { world with driver := { world.driver with pool := f world.driver.pool } }

namespace Network

variable {ν S α : Type} (net : Network ν)

/-- Run work of the network. -/
def lift (w : Work ν S α) : Work (State ν) S α :=
  Work.onPart State.network (fun network state => { state with network := network }) w

/-- Ask for a permit; while all are in use this waits. -/
def takePermit : Work (State ν) S (Except DriverError Unit) := do
  match (← Work.driver).pool.requestPermit with
  | .refused => return .error (.connection "connection pool is closed")
  | .waiting => Work.never
  | .granted pool =>
      Work.change (changePool fun _ => pool)
      return .ok ()

/-- Wait for something. -/
def awaited : (w : Wait) → Work (State ν) S w.Answer
  | .permit => takePermit
  | .connection => lift net.connect
  | .reply connection ticket => lift (net.await connection ticket)

end Network

/-- Run a task by itself. -/
def Task.work (net : Network ν) : Task ν S α → Work (State ν) S α
  | .done a => return a
  | .act next change => fun cutoff world => (next world).work net cutoff (change world)
  | .wait w next dropped => do
      let answer ← Work.onCut (net.awaited w) dropped
      (next answer).work net

end Postgres
end QueryBatch
