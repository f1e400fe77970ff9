import QueryBatch.Proofs.Postgres.CheckOut

/-!
# A pool and its users

Any number of callers use one pool. A call runs until it waits; then other calls run, lines move,
time passes, until somebody polls it again or drops it. `Usage.next` is one such step, and
`Usage.after` any number of them.

A transaction is in the hands of its caller or of one call at a time, as is a connection. A
connection is spoiled when a call that was handed it for a `BEGIN`, a script or a batch is dropped,
when such a `BEGIN` or script fails, when the end of a transaction is dropped or fails, and when a
transaction is let go unfinished.

All hand-outs and spoilings are written down in `Usage.history`.
-/

namespace QueryBatch
namespace Postgres

/-- What a caller wants a connection of the pool for. -/
inductive Errand
  | begin
  /-- Run a script. A ping is the script `;`. -/
  | script (text : String)
  | batch (statements : List Statement)

/-- A call that waits: for what, how it goes on, and what is left to do if it is dropped. -/
structure Suspension (α : Type) where
  wait : Wait
  next : wait.Answer → Task Wire Unit α
  dropped : World (State Wire) Unit → World (State Wire) Unit

inductive Job
  | asking (errand : Errand) (rest : Suspension (Except DriverError Live))
  | handed (errand : Errand) (live : Live) (rest : Suspension (Except DriverError (Option Nat)))
  | filling (rest : Suspension (Except DriverError Unit))
  | sending (tx : Nat) (rest : Suspension (Answers Row))
  | finishing (tx : Nat) (live : Live) (rest : Suspension (Except DriverError Unit))

inductive Handling
  | handedOut (connection : Nat)
  /-- It was left in a state that nobody else must find. -/
  | spoiled (connection : Nat)
  deriving DecidableEq, Repr

structure Usage where
  world : World (State Wire) Unit
  jobs : List Job := []
  /-- The transactions in the hands of their callers. -/
  lent : List Nat := []
  /-- What happened to connections, the last first. -/
  history : List Handling := []

inductive Action
  | call (errand : Errand)
  | fill
  /-- Send statements in one of the transactions in the hands of callers. -/
  | send (index : Nat) (statements : List Statement)
  | commit (index : Nat)
  | rollback (index : Nat)
  | letGo (index : Nat)
  /-- Go on with a call, if what it waits for is there; a new connection may be refused. -/
  | poll (index : Nat) (refusal : Option Fault)
  | drop (index : Nat)
  | move (connection : Nat) (move : Line.Move)
  | pass (ms : Nat)
  | close

section Defs

/-- Run a call until it waits or returns. -/
def Task.advance {α : Type} : Task Wire Unit α → World (State Wire) Unit →
    (α ⊕ Suspension α) × World (State Wire) Unit
  | .done a, world => (.inl a, world)
  | .act next change, world => (next world).advance (change world)
  | .wait w next dropped, world => (.inr ⟨w, next, dropped⟩, world)

/-- Go on with a call, if what it waits for is there. -/
def Suspension.resume {α : Type} (rest : Suspension α) (refusal : Option Fault)
    (world : World (State Wire) Unit) : Option (Task Wire Unit α × World (State Wire) Unit) :=
  (rest.wait.resolve refusal world).map fun ready => (rest.next ready.1, ready.2)

/-- What is done with a connection; a transaction that was begun is answered. -/
def Errand.use (live : Live) : Errand → Task Wire Unit (Except DriverError (Option Nat))
  | .begin => do return some <$> (← Wire.network.beginOn live)
  | .script text => do return (fun _ => none) <$> (← Wire.network.scriptOn text live)
  | .batch statements => do return (fun _ => none) <$> (← Wire.network.batchOn statements live)

/-- Scripts of callers neither open nor end blocks. -/
def Action.Plain : Action → Prop
  | .call (.script text) => Postgres.Plain text
  | _ => True

namespace Usage

def start (options : PoolOptions) (future : List Turn) : Usage where
  world :=
    { now := 0, spans := [], notes := [], openTx := [], store := (),
      driver := State.start options { future := future } }

/-- Run a call until it waits or returns. -/
def proceed {α : Type} (usage : Usage) (task : Task Wire Unit α) (stop : Suspension α → Job)
    (done : α → Usage → Usage) : Usage :=
  match task.advance usage.world with
  | (.inl a, world) => done a { usage with world := world }
  | (.inr rest, world) => { usage with world := world, jobs := stop rest :: usage.jobs }

def record (handling : Handling) (usage : Usage) : Usage :=
  { usage with history := handling :: usage.history }

def spoil (live : Live) (usage : Usage) : Usage := usage.record (.spoiled live.connection)

def lend (tx : Nat) (usage : Usage) : Usage := { usage with lent := tx :: usage.lent }

/-- End a call that was handed a connection. -/
def conclude (errand : Errand) (live : Live) (answer : Except DriverError (Option Nat))
    (usage : Usage) : Usage :=
  match errand, answer with
  | .batch _, _ => usage
  | _, .error _ => usage.spoil live
  | _, .ok none => usage
  | _, .ok (some tx) => usage.lend tx

/-- Go on with a call that was handed a connection. -/
def hand (errand : Errand) (live : Live) (task : Task Wire Unit (Except DriverError (Option Nat)))
    (usage : Usage) : Usage :=
  usage.proceed task (.handed errand live) (conclude errand live)

/-- Go on with a call that has no connection yet. -/
def ask (errand : Errand) (task : Task Wire Unit (Except DriverError Live)) (usage : Usage) :
    Usage :=
  usage.proceed task (.asking errand) fun result usage =>
    match result with
    | .ok live =>
        (usage.record (.handedOut live.connection)).hand errand live (errand.use live)
    | .error _ => usage

def fill (task : Task Wire Unit (Except DriverError Unit)) (usage : Usage) : Usage :=
  usage.proceed task .filling fun _ usage => usage

def send (tx : Nat) (task : Task Wire Unit (Answers Row)) (usage : Usage) : Usage :=
  usage.proceed task (.sending tx) fun _ usage => usage.lend tx

def finish (tx : Nat) (live : Live) (task : Task Wire Unit (Except DriverError Unit))
    (usage : Usage) : Usage :=
  usage.proceed task (.finishing tx live) fun answer usage =>
    match answer with
    | .ok () => usage
    | .error _ => usage.spoil live

/-- Take one of the transactions out of the hands of its caller. -/
def borrow (index : Nat) (usage : Usage) : Option (Nat × Live × Usage) :=
  match usage.lent[index]? with
  | none => none
  | some tx =>
      (usage.world.driver.held.lookup tx).map fun live =>
        (tx, live, { usage with lent := usage.lent.eraseIdx index })

/-- Go on with a call, if what it waits for is there. -/
def resume (refusal : Option Fault) (usage : Usage) : Job → Option Usage
  | .asking errand rest =>
      (rest.resume refusal usage.world).map fun ready =>
        { usage with world := ready.2 }.ask errand ready.1
  | .handed errand live rest =>
      (rest.resume refusal usage.world).map fun ready =>
        { usage with world := ready.2 }.hand errand live ready.1
  | .filling rest =>
      (rest.resume refusal usage.world).map fun ready =>
        { usage with world := ready.2 }.fill ready.1
  | .sending tx rest =>
      (rest.resume refusal usage.world).map fun ready =>
        { usage with world := ready.2 }.send tx ready.1
  | .finishing tx live rest =>
      (rest.resume refusal usage.world).map fun ready =>
        { usage with world := ready.2 }.finish tx live ready.1

def drop (usage : Usage) : Job → Usage
  | .asking _ rest => { usage with world := rest.dropped usage.world }
  | .handed _ live rest => { usage with world := rest.dropped usage.world }.spoil live
  | .filling rest => { usage with world := rest.dropped usage.world }
  | .sending tx rest => { usage with world := rest.dropped usage.world }.lend tx
  | .finishing _ live rest => { usage with world := rest.dropped usage.world }.spoil live

/-- What happens to a pool in use, if it can happen. -/
def next (usage : Usage) : Action → Option Usage
  | .call errand => some (usage.ask errand Wire.network.acquire)
  | .fill => some (usage.fill Wire.network.fillTask)
  | .send index statements =>
      (usage.borrow index).map fun (tx, _, usage) =>
        usage.send tx (Wire.network.sendIn tx statements)
  | .commit index =>
      (usage.borrow index).map fun (tx, live, usage) =>
        usage.finish tx live (Wire.network.finish "COMMIT" tx)
  | .rollback index =>
      (usage.borrow index).map fun (tx, live, usage) =>
        usage.finish tx live (Wire.network.finish "ROLLBACK" tx)
  | .letGo index =>
      (usage.borrow index).map fun (tx, live, usage) =>
        { usage with world := Wire.network.endTx false tx usage.world }.spoil live
  | .poll index refusal =>
      match usage.jobs[index]? with
      | none => none
      | some job => { usage with jobs := usage.jobs.eraseIdx index }.resume refusal job
  | .drop index =>
      match usage.jobs[index]? with
      | none => none
      | some job => some ({ usage with jobs := usage.jobs.eraseIdx index }.drop job)
  | .move connection move =>
      some { usage with world := changeNetwork (·.move (connection, move)) usage.world }
  | .pass ms => some { usage with world := { usage.world with now := usage.world.now + ms } }
  | .close => some { usage with world := Wire.network.closed usage.world }

def after (usage : Usage) : List Action → Option Usage
  | [] => some usage
  | action :: rest =>
      match usage.next action with
      | none => none
      | some later => later.after rest

/-- What can happen to a pool in use, with what it takes to happen. -/
inductive Steps (usage : Usage) : Action → Usage → Prop
  | calls
      (errand : Errand) :
      Steps usage (.call errand) (usage.ask errand Wire.network.acquire)
  | fills :
      Steps usage .fill (usage.fill Wire.network.fillTask)
  | sends
      {index tx : Nat}
      {live : Live}
      {left : Usage}
      (borrow : usage.borrow index = some (tx, live, left))
      (statements : List Statement) :
      Steps usage (.send index statements) (left.send tx (Wire.network.sendIn tx statements))
  | commits
      {index tx : Nat}
      {live : Live}
      {left : Usage}
      (borrow : usage.borrow index = some (tx, live, left)) :
      Steps usage (.commit index) (left.finish tx live (Wire.network.finish "COMMIT" tx))
  | rollsBack
      {index tx : Nat}
      {live : Live}
      {left : Usage}
      (borrow : usage.borrow index = some (tx, live, left)) :
      Steps usage (.rollback index) (left.finish tx live (Wire.network.finish "ROLLBACK" tx))
  | letsGo
      {index tx : Nat}
      {live : Live}
      {left : Usage}
      (borrow : usage.borrow index = some (tx, live, left)) :
      Steps usage (.letGo index)
        ({ left with world := Wire.network.endTx false tx left.world }.spoil live)
  | polls
      {index : Nat}
      {job : Job}
      {refusal : Option Fault}
      {later : Usage}
      (waits : usage.jobs[index]? = some job)
      (resume : { usage with jobs := usage.jobs.eraseIdx index }.resume refusal job = some later) :
      Steps usage (.poll index refusal) later
  | drops
      {index : Nat}
      {job : Job}
      (waits : usage.jobs[index]? = some job) :
      Steps usage (.drop index) ({ usage with jobs := usage.jobs.eraseIdx index }.drop job)
  | moves
      (connection : Nat)
      (move : Line.Move) :
      Steps usage (.move connection move)
        { usage with world := changeNetwork (·.move (connection, move)) usage.world }
  | passes
      (ms : Nat) :
      Steps usage (.pass ms)
        { usage with world := { usage.world with now := usage.world.now + ms } }
  | closes :
      Steps usage .close { usage with world := Wire.network.closed usage.world }

end Usage
end Defs

theorem Usage.steps_of_next
    {usage later : Usage}
    {action : Action}
    (hnext : usage.next action = some later) :
    usage.Steps action later := by
  cases action with
  | call errand =>
      obtain rfl := Option.some.inj hnext
      exact .calls errand
  | fill =>
      obtain rfl := Option.some.inj hnext
      exact .fills
  | send index statements =>
      simp only [next, Option.map_eq_some_iff] at hnext
      obtain ⟨⟨tx, live, left⟩, hborrow, rfl⟩ := hnext
      exact .sends hborrow statements
  | commit index =>
      simp only [next, Option.map_eq_some_iff] at hnext
      obtain ⟨⟨tx, live, left⟩, hborrow, rfl⟩ := hnext
      exact .commits hborrow
  | rollback index =>
      simp only [next, Option.map_eq_some_iff] at hnext
      obtain ⟨⟨tx, live, left⟩, hborrow, rfl⟩ := hnext
      exact .rollsBack hborrow
  | letGo index =>
      simp only [next, Option.map_eq_some_iff] at hnext
      obtain ⟨⟨tx, live, left⟩, hborrow, rfl⟩ := hnext
      exact .letsGo hborrow
  | poll index refusal =>
      cases hjob : usage.jobs[index]? with
      | none => simp [next, hjob] at hnext
      | some job =>
          simp only [next, hjob] at hnext
          exact .polls hjob hnext
  | drop index =>
      cases hjob : usage.jobs[index]? with
      | none => simp [next, hjob] at hnext
      | some job =>
          simp only [next, hjob, Option.some.injEq] at hnext
          exact hnext ▸ .drops hjob
  | move connection move =>
      obtain rfl := Option.some.inj hnext
      exact .moves connection move
  | pass ms =>
      obtain rfl := Option.some.inj hnext
      exact .passes ms
  | close =>
      obtain rfl := Option.some.inj hnext
      exact .closes

end Postgres
end QueryBatch
