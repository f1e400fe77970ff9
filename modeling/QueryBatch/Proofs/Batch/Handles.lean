import QueryBatch.Batch.Context
import QueryBatch.Proofs.Batch.Work

/-!
# Handles that many calls share

Any number of calls may use one handle at the same time. What they share is a cell with the
transaction, behind a lock. A call waits for the lock and then runs until the driver has to answer.

* Sending keeps the lock while the driver works.
* Committing and rolling back take the transaction out of the cell and give the lock back before the
  driver works.
* A call that finds the cell empty answers that the transaction is closed.

`work_task` and `work_isClosed` say that these are the calls of `Driver`, if nobody else uses the
handle. Otherwise calls begin, get the lock in any order, are answered by the driver or are dropped
while they wait, and `SharedHandle.log` keeps what the transaction saw and what was answered.
-/

namespace QueryBatch

inductive TxCall
  | send (statements : List Statement)
  | commit
  | rollback

inductive HandleCall
  | ask (call : TxCall)
  | isClosed

namespace TxCall

abbrev Answer (ρ : Type) : TxCall → Type
  | send _ => Answers ρ
  | commit | rollback => Except DriverError Unit

def finishes : TxCall → Bool
  | send _ => false
  | commit | rollback => true

/-- The answer of a handle that is closed. -/
def refusal {ρ : Type} : (call : TxCall) → call.Answer ρ
  | send _ => .error .txClosed
  | commit | rollback => .error .txClosed

end TxCall

inductive HandleResult (ρ : Type)
  | answer (call : TxCall) (answer : call.Answer ρ)
  | closed (closed : Bool)

/-- A call on a handle in pieces. -/
inductive HandleTask (ρ : Type)
  | done (result : HandleResult ρ)
  /-- Wait for the lock, and see whether the transaction is in the cell. -/
  | lock (next : Bool → HandleTask ρ)
  /-- Take the transaction out of the cell. -/
  | take (next : HandleTask ρ)
  | unlock (next : HandleTask ρ)
  /-- Wait for the driver. -/
  | drive (call : TxCall) (next : call.Answer ρ → HandleTask ρ)

/-- What is seen of a handle. -/
inductive HandleEvent (ρ : Type)
  | obtained (id : Nat) (call : HandleCall)
  /-- The driver began to work for a call. -/
  | began (id : Nat) (call : TxCall)
  /-- The driver answered, or the call was dropped and the driver's work with it. -/
  | ended (id : Nat) (call : TxCall)
  | returned (id : Nat) (result : HandleResult ρ)

structure Pending (ρ : Type) where
  call : HandleCall
  task : HandleTask ρ

structure SharedHandle (ρ : Type) where
  /-- Whether the transaction is in the cell. -/
  isOpen : Bool := true
  /-- Who has the lock while all calls wait. -/
  holder : Option Nat := none
  pending : Nat → Option (Pending ρ) := fun _ => none
  /-- How many calls were made. -/
  calls : Nat := 0
  log : List (HandleEvent ρ) := []

inductive HandleAction (ρ : Type)
  | call (call : HandleCall)
  | grant (id : Nat)
  | answer (id : Nat) (reply : (call : TxCall) → call.Answer ρ)
  | drop (id : Nat)

variable {ρ σ S : Type}

section Defs

namespace TxCall

/-- Give the lock back, if the call still has it when the driver has answered. -/
def letGo : TxCall → HandleTask ρ → HandleTask ρ
  | send _, rest => .unlock rest
  | commit, rest | rollback, rest => rest

/-- What is left of a call once the driver works. -/
def driving (call : TxCall) : HandleTask ρ :=
  .drive call fun answer => call.letGo (.done (.answer call answer))

/-- Work with the transaction, and keep the lock until the driver has answered. -/
def keeping (call : TxCall) : HandleTask ρ :=
  .lock fun isOpen =>
    if isOpen then call.driving else .unlock (.done (.answer call call.refusal))

/-- Take the transaction out, give the lock back, and work with the transaction. -/
def taking (call : TxCall) : HandleTask ρ :=
  .lock fun isOpen => .take <| .unlock <|
    if isOpen then call.driving else .done (.answer call call.refusal)

end TxCall

def HandleCall.task : HandleCall → HandleTask ρ
  | .ask (.send statements) => (TxCall.send statements).keeping
  | .ask .commit => TxCall.commit.taking
  | .ask .rollback => TxCall.rollback.taking
  | .isClosed => .lock fun isOpen => .unlock (.done (.closed !isOpen))

/-- What a call on a closed handle returns. -/
def HandleCall.refusal : HandleCall → HandleResult ρ
  | .ask call => .answer call call.refusal
  | .isClosed => .closed true

def Driver.work (d : Driver σ ρ) (tx : Nat) : (call : TxCall) → Work σ S (call.Answer ρ)
  | .send statements => d.sendIn tx statements
  | .commit => d.commit tx
  | .rollback => d.rollback tx

/-- What a driver does for the handle of a transaction. -/
def Driver.through (d : Driver σ ρ) (tx : Nat) : (call : TxCall) → Work σ S (call.Answer ρ)
  | .send statements => d.sendThrough tx statements
  | .commit => d.commitThrough tx
  | .rollback => d.rollbackThrough tx

/-- Run a call on a handle that nobody else uses. -/
def HandleTask.work (d : Driver σ ρ) (tx : Nat) : HandleTask ρ → Work σ S (HandleResult ρ)
  | .done result => return result
  | .lock next => do
      let closed ← Driver.isClosed tx
      (next !closed).work d tx
  | .take next => do
      let _ ← Driver.closeHandle tx
      next.work d tx
  | .unlock next => next.work d tx
  | .drive call next => do
      let answer ← d.work tx call
      (next answer).work d tx

namespace SharedHandle

def record (events : List (HandleEvent ρ)) (handle : SharedHandle ρ) : SharedHandle ρ :=
  { handle with log := handle.log ++ events }

def suspend (id : Nat) (waiting : Option (Pending ρ)) (handle : SharedHandle ρ) : SharedHandle ρ :=
  { handle with pending := Function.update handle.pending id waiting }

/-- Run a call until it waits or returns. -/
def proceed (id : Nat) (call : HandleCall) : HandleTask ρ → SharedHandle ρ → SharedHandle ρ
  | .done result, handle => handle.record [.returned id result]
  | .lock next, handle => handle.suspend id (some ⟨call, .lock next⟩)
  | .take next, handle => proceed id call next { handle with isOpen := false }
  | .unlock next, handle => proceed id call next { handle with holder := none }
  | .drive asked next, handle =>
      (handle.suspend id (some ⟨call, .drive asked next⟩)).record [.began id asked]

/-- What happens to a handle in use, if it can happen. A dropped call gives its lock back, and the
driver stops to work for it. -/
def next (handle : SharedHandle ρ) : HandleAction ρ → Option (SharedHandle ρ)
  | .call call =>
      some (proceed handle.calls call call.task { handle with calls := handle.calls + 1 })
  | .grant id =>
      match handle.pending id, handle.holder with
      | some ⟨call, .lock next⟩, none =>
          some (proceed id call (next handle.isOpen)
            (({ handle with holder := some id }.suspend id none).record [.obtained id call]))
      | _, _ => none
  | .answer id reply =>
      match handle.pending id with
      | some ⟨call, .drive asked next⟩ =>
          some (proceed id call (next (reply asked))
            ((handle.suspend id none).record [.ended id asked]))
      | _ => none
  | .drop id =>
      match handle.pending id with
      | some ⟨_, task⟩ =>
          let handle := { handle with
            holder := if handle.holder = some id then none else handle.holder }
          match task with
          | .drive asked _ => some ((handle.suspend id none).record [.ended id asked])
          | _ => some (handle.suspend id none)
      | none => none

def after (handle : SharedHandle ρ) : List (HandleAction ρ) → Option (SharedHandle ρ)
  | [] => some handle
  | action :: rest =>
      match handle.next action with
      | none => none
      | some later => later.after rest

end SharedHandle
end Defs

section Alone

variable (d : Driver σ ρ) (tx : Nat)

theorem work_driving
    (call : TxCall) :
    (call.driving.work d tx : Work σ S _) = HandleResult.answer call <$> d.work tx call := by
  cases call <;> rfl

variable {cutoff : Option Nat} {world : World σ S}

theorem run_lock
    (next : Bool → HandleTask ρ) :
    ((HandleTask.lock next).work d tx).run cutoff world
      = ((next (world.openTx.contains tx)).work d tx).run cutoff world := by
  change ((next (!!world.openTx.contains tx)).work d tx).run cutoff world = _
  rw [Bool.not_not]

theorem run_through_send
    (statements : List Statement) :
    (d.sendThrough tx statements).run cutoff world
      = if world.openTx.contains tx then (d.sendIn tx statements).run cutoff world
        else (.done (.error .txClosed), world) := by
  unfold Driver.sendThrough Driver.isClosed
  rw [Work.run_bind, Work.run_look, Ending.andThen_done]
  cases world.openTx.contains tx <;> rfl

theorem work_keeping
    (statements : List Statement) :
    ((TxCall.send statements).keeping.work d tx : Work σ S _)
      = HandleResult.answer (.send statements) <$> d.sendThrough tx statements := by
  funext cutoff world
  refine (run_lock d tx _).trans ?_
  change _ = Work.run (HandleResult.answer (TxCall.send statements)
    <$> d.sendThrough tx statements) cutoff world
  rw [Work.run_map, run_through_send]
  cases world.openTx.contains tx with
  | true => exact congrFun (congrFun (work_driving d tx (.send statements)) cutoff) world
  | false => rfl

theorem work_taking
    {call : TxCall}
    {through : Work σ S (call.Answer ρ)}
    (hthrough : through = do
      if ← Driver.closeHandle tx then d.work tx call else return call.refusal) :
    call.taking.work d tx = HandleResult.answer call <$> through := by
  funext cutoff world
  refine (run_lock d tx _).trans ?_
  change _ = Work.run (HandleResult.answer call <$> through) cutoff world
  rw [Work.run_map, hthrough]
  unfold Driver.closeHandle
  rw [Work.run_bind, Work.run_step, Ending.andThen_done]
  cases world.openTx.contains tx with
  | true => exact congrFun (congrFun (work_driving d tx call) cutoff) _
  | false => rfl

/-- Alone, a call on a handle is what the driver does for it. -/
theorem work_task
    (call : TxCall) :
    ((HandleCall.ask call).task.work d tx : Work σ S _)
      = HandleResult.answer call <$> d.through tx call := by
  cases call with
  | send statements => exact work_keeping d tx statements
  | commit => exact work_taking d tx rfl
  | rollback => exact work_taking d tx rfl

theorem work_isClosed :
    (HandleCall.isClosed.task.work d tx : Work σ S (HandleResult ρ))
      = HandleResult.closed <$> Driver.isClosed tx := by
  funext cutoff world
  change (Ending.done (HandleResult.closed (!!!world.openTx.contains tx)), world)
    = (Ending.done (HandleResult.closed (!world.openTx.contains tx)), world)
  rw [Bool.not_not]

end Alone

end QueryBatch
