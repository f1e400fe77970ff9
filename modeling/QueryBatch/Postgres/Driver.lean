import QueryBatch.Postgres.Task

/-!
# The driver for PostgreSQL

A transaction holds one connection of a pool from its `BEGIN` until it is finished. Statements are
posted one after the other before any reply is read. Several statements outside of a transaction
are posted between a `BEGIN` and a `COMMIT`, so that a failure undoes the ones before it.

A connection goes back to the pool only if it is known to be between requests; any other is let go.
-/

namespace QueryBatch
namespace Postgres

/-- A request that was posted, or why it was not. -/
abbrev Posted := Except Fault Nat

/-- A reply to a request, or why there is none. -/
abbrev Result := Except Fault Reply

/-- The answer to a statement as its kind wants it: the rows and their number, or no rows and the
number of affected rows, which is that of the rows if it is not told. -/
def answerOf (kind : StatementKind) (reply : Reply) : Answer Row :=
  match kind with
  | .query => .ofRows reply.rows
  | .exec => .affected (reply.affected.getD reply.rows.length)

/-- The fault of a statement as an error of a batch. -/
def statementError (index : Nat) (fault : Fault) : DriverError :=
  if fault = .closed then .connection fault.message else .statement index fault.message

/-- The answers to statements from a position on, up to the first that has none. -/
def gatherFrom : Nat → List (StatementKind × Result) → Answers Row
  | _, [] => .ok []
  | index, (_, .error fault) :: _ => .error (statementError index fault)
  | index, (kind, .ok reply) :: rest =>
      match gatherFrom (index + 1) rest with
      | .error e => .error e
      | .ok answers => .ok (answerOf kind reply :: answers)

/-- Whether a frame of a pipeline went well; there may be none. -/
def frameError : Option Result → Option DriverError
  | some (.error fault) => some (.connection fault.message)
  | _ => none

/-- What comes of a pipeline: the failure of its `BEGIN`, else that of the first statement without
an answer, else that of its `COMMIT`, else the answers. -/
def gather (begun : Option Result) (results : List (StatementKind × Result))
    (committed : Option Result) : Answers Row :=
  match frameError begun with
  | some e => .error e
  | none =>
      match gatherFrom 0 results with
      | .error e => .error e
      | .ok answers =>
          match frameError committed with
          | some e => .error e
          | none => .ok answers

/-- Why a request cannot be written, if so: texts end at a null character. -/
def unwritable? : Request → Option Fault
  | .script text => if text.toList.contains '\x00' then some .unwritable else none
  | .statement sql => if sql.text.toList.contains '\x00' then some .malformed else none

namespace Network

variable {ν S α : Type} (net : Network ν)

/-- Let connections go. -/
def leaveAll (entries : List Idle) (world : World (State ν) S) : World (State ν) S :=
  entries.foldl (fun world entry => changeNetwork (net.leave entry.live.connection) world) world

/-- Let the network catch up. -/
def settled (world : World (State ν) S) : World (State ν) S :=
  let left := net.settle
    { now := world.now, spans := world.spans, notes := world.notes, openTx := world.openTx,
      driver := world.driver.network, store := world.store }
  { now := left.now, spans := left.spans, notes := left.notes, openTx := left.openTx,
    driver := { world.driver with network := left.driver }, store := left.store }

/-- Open a connection. -/
def openLive : Task ν S (Except Fault Live) := do
  match ← Task.await .connection with
  | .error fault => return .error fault
  | .ok connection =>
      Task.change fun world =>
        world.note "DEBUG" [("message", "opened database connection")]
      return .ok ⟨connection, ← Task.look World.now⟩

/-- Put a connection back into the pool, or let it go if the pool does not take it. -/
def release (live : Live) (world : World (State ν) S) : World (State ν) S :=
  let (kept, pool) := world.driver.pool.release world.now (net.isOpen world.driver.network) live
  let world := changePool (fun _ => pool) world
  if kept then world else changeNetwork (net.leave live.connection) world

/-- Give back the connection of a permit and the permit. Only a clean connection is reused. -/
def checkIn (clean : Bool) (live : Live) (world : World (State ν) S) : World (State ν) S :=
  let world :=
    if clean then release net live world
    else
      changeNetwork (net.leave live.connection) <|
        world.note "DEBUG" [("message", "discarding database connection in an unknown state")]
  changePool Pool.returnPermit world

/-- Take an idle connection, if one may be used again. -/
def takeIdle : Task ν S (Option Live) := Task.step fun world =>
  let (found, pool, dropped) :=
    world.driver.pool.takeIdle world.now (net.isOpen world.driver.network)
  (found, leaveAll net dropped (changePool (fun _ => pool) world))

/-- Check out a connection: an idle one if possible, else a new one. -/
def acquire : Task ν S (Except DriverError Live) := do
  Task.change net.settled
  match ← Task.await .permit with
  | .error e => return .error e
  | .ok () =>
      match ← takeIdle net with
      | some live => return .ok live
      | none =>
          match ← Task.onDrop (changePool Pool.returnPermit) openLive with
          | .ok live => return .ok live
          | .error fault =>
              Task.change (changePool Pool.returnPermit)
              return .error (.connection fault.message)

/-- Check out a connection and go on with it. -/
def checkOut (use : Live → Task ν S (Except DriverError α)) : Task ν S (Except DriverError α) := do
  match ← acquire net with
  | .error e => return .error e
  | .ok live => use live

/-- Post a request on a connection. -/
def request (live : Live) (r : Request) : Task ν S Posted := Task.step fun world =>
  match unwritable? r with
  | some fault => (.error fault, world)
  | none =>
      if net.isOpen world.driver.network live.connection then
        let (ticket, network) := net.post live.connection world.now r world.driver.network
        (.ok ticket, changeNetwork (fun _ => network) world)
      else (.error .closed, world)

/-- Wait for what becomes of a request that was posted on a connection. -/
def outcome (live : Live) : Posted → Task ν S Result
  | .ok ticket => Task.await (.reply live.connection ticket)
  | .error fault => return .error fault

/-- Run a script on a connection. -/
def runScript (live : Live) (text : String) : Task ν S (Except DriverError Unit) := do
  let posted ← request net live (.script text)
  match ← outcome live posted with
  | .ok _ => return .ok ()
  | .error fault => return .error (.connection fault.message)

/-- Post statements in order. -/
def postAll (live : Live) : List Statement → Task ν S (List (StatementKind × Posted))
  | [] => return []
  | statement :: rest => do
      let posted ← request net live (.statement statement.sql)
      return (statement.kind, posted) :: (← postAll live rest)

/-- Wait for what becomes of posted statements, in order. -/
def outcomes (live : Live) :
    List (StatementKind × Posted) → Task ν S (List (StatementKind × Result))
  | [] => return []
  | (kind, posted) :: rest => do
      let result ← outcome live posted
      return (kind, result) :: (← outcomes live rest)

/-- Post the text of a frame, if statements are framed. -/
def postFrame (live : Live) (framed : Bool) (text : String) : Task ν S (Option Posted) := do
  if framed then return some (← request net live (.script text)) else return none

/-- Wait for what becomes of a frame. -/
def frameOutcome (live : Live) : Option Posted → Task ν S (Option Result)
  | none => return none
  | some posted => some <$> outcome live posted

/-- Post statements, between `BEGIN` and `COMMIT` if they are framed, and wait for the answers. -/
def pipeline (live : Live) (statements : List Statement) (framed : Bool) :
    Task ν S (Answers Row) := do
  let begun ← postFrame net live framed "BEGIN"
  let posted ← postAll net live statements
  let committed ← postFrame net live framed "COMMIT"
  let begun ← frameOutcome live begun
  let results ← outcomes live posted
  let committed ← frameOutcome live committed
  return gather begun results committed

/-- Run a script on a connection of the pool, which is clean afterwards if the script succeeded. -/
def scriptOn (text : String) (live : Live) : Task ν S (Except DriverError Unit) := do
  let result ← Task.onDrop (checkIn net false live) (runScript net live text)
  Task.change (checkIn net result.isOk live)
  return result

/-- Begin a transaction on a connection of the pool. -/
def beginOn (live : Live) : Task ν S (Except DriverError Nat) := do
  match ← Task.onDrop (checkIn net false live) (runScript net live "BEGIN") with
  | .error e =>
      Task.change (checkIn net false live)
      return .error e
  | .ok () => Task.step fun world =>
      let state := world.driver
      (.ok state.nextTx, { world with driver :=
        { state with held := (state.nextTx, live) :: state.held, nextTx := state.nextTx + 1 } })

/-- Send statements on a connection of the pool. It is clean afterwards: each statement has been
answered, and a frame was ended. -/
def batchOn (statements : List Statement) (live : Live) : Task ν S (Answers Row) := do
  let answers ← Task.onDrop (checkIn net false live)
    (pipeline net live statements (1 < statements.length))
  Task.change (checkIn net true live)
  return answers

/-- The connection that a transaction holds. -/
def heldBy (tx : Nat) : Task ν S (Option Live) :=
  Task.look fun world => world.driver.held.lookup tx

/-- Send statements on the connection of a transaction. -/
def sendIn (tx : Nat) (statements : List Statement) : Task ν S (Answers Row) := do
  match ← heldBy tx with
  | none => return .error .txClosed
  | some live => pipeline net live statements false

/-- Let the connection of a transaction go back, clean or not. -/
def endTx (clean : Bool) (tx : Nat) (world : World (State ν) S) : World (State ν) S :=
  match world.driver.held.lookup tx with
  | none => world
  | some live =>
      checkIn net clean live { world with driver :=
        { world.driver with held := world.driver.held.filter (·.1 ≠ tx) } }

/-- Finish a transaction with a command. -/
def finish (command : String) (tx : Nat) : Task ν S (Except DriverError Unit) := do
  match ← heldBy tx with
  | none => return .error .txClosed
  | some live =>
      let result ← Task.onDrop (endTx net false tx) (runScript net live command)
      Task.change (endTx net result.isOk tx)
      return result

/-- Open so many connections and put them into the pool. -/
def openIdle : Nat → Task ν S (Except DriverError Unit)
  | 0 => return .ok ()
  | n + 1 => do
      match ← openLive with
      | .error fault => return .error (.connection fault.message)
      | .ok live =>
          Task.change (release net live)
          openIdle n

/-- Open the connections that a pool has in advance, and at least one, so that a server that cannot
be reached is noticed here. -/
def fillTask : Task ν S (Except DriverError Unit) := do
  openIdle net (max (← Task.look fun world => world.driver.pool.options.minConnections) 1)

/-- Run a script on a connection of the pool. -/
def batchExecute (text : String) : Work (State ν) S (Except DriverError Unit) :=
  (checkOut net (scriptOn net text)).work net

/-- The driver. -/
def driver : Driver (State ν) Row where
  begin := (checkOut net (beginOn net)).work net
  ping := batchExecute net ";"
  send statements := (checkOut net (batchOn net statements)).work net
  sendIn tx statements := (sendIn net tx statements).work net
  commit tx := (finish net "COMMIT" tx).work net
  rollback tx := (finish net "ROLLBACK" tx).work net
  letGo := endTx net false

/-- Open the first connections of the pool. -/
def fill : Work (State ν) S (Except DriverError Unit) := (fillTask net).work net

/-- Close the pool and let its idle connections go. -/
def closed (world : World (State ν) S) : World (State ν) S :=
  let (pool, dropped) := world.driver.pool.close
  leaveAll net dropped (changePool (fun _ => pool) world)

/-- Close the pool. -/
def closePool : Work (State ν) S Unit := Work.change net.closed

end Network
end Postgres
end QueryBatch
