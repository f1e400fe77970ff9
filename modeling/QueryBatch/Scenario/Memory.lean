import QueryBatch.Batch.Driver

/-!
# A scripted driver in memory

A driver that answers from a script and records what it was asked for. Each kind of call waits for
its delay and may then fail; statements are answered by their exact text, a list of replies being
used up one by one with the last one repeating.
-/

namespace QueryBatch
namespace Memory

/-- Something the driver was asked for. -/
inductive Event
  | begin
  | ping
  | send (transactional : Bool) (statements : List Statement)
  | commit
  | rollback
  /-- A transaction was let go, or its finishing call did not succeed. -/
  | drop
  deriving Inhabited

/-- The reply to a statement. -/
inductive Reply
  | answer (answer : Answer Json)
  | failure (message : String)
  /-- A reply that is no reply: the statement was not expected. -/
  | unexpected
  deriving Inhabited

/-- How a kind of call goes. -/
structure Call where
  /-- Milliseconds before it ends. -/
  delay : Nat := 0
  /-- Whether it ends at all. -/
  answers : Bool := true
  /-- How it fails, if it does. -/
  failure : Option DriverError := none
  /-- Whether it is recorded. -/
  recorded : Bool := true
  deriving Inhabited

/-- What statements are answered with. -/
inductive Responses
  /-- By text, with a list of replies for all other texts. -/
  | listed (replies : List (String × List Reply)) (fallback : List Reply)
  /-- One null row for a query, one affected row for an exec statement. -/
  | succeeding
  deriving Inhabited

/-- What the driver does. -/
structure Script where
  begin : Call := {}
  send : Call := {}
  commit : Call := {}
  rollback : Call := {}
  ping : Call := {}
  responses : Responses := .listed [] []
  /-- Whether a ping is answered like a statement of its own when its text is not listed. -/
  pingNeedsReply : Bool := false
  /-- Whether letting a transaction go is recorded. -/
  recordsDrop : Bool := true
  /-- The greatest number of answers to a batch. -/
  truncate : Option Nat := none
  /-- The number of answers added to a batch. -/
  pad : Nat := 0
  deriving Inhabited

/-- The state of the driver. -/
structure State where
  script : Script
  /-- The newest first. -/
  events : List Event := []
  /-- How often each list of replies was used; nothing names the one for all other texts. -/
  uses : List (Option String × Nat) := []
  nextTx : Nat := 0
  deriving Inhabited

namespace State

/-- Record an event. -/
def emit (state : State) (event : Event) : State := { state with events := event :: state.events }

/-- Take the events out, the newest first. -/
def drain (state : State) : List Event × State := (state.events, { state with events := [] })

/-- The next reply of a list that goes by a name. -/
def nextReply (state : State) (key : Option String) (replies : List Reply) : Reply × State :=
  let used := (state.uses.lookup key).getD 0
  let reply := (replies[min used (replies.length - 1)]?).getD .unexpected
  (reply, { state with uses := (key, used + 1) :: state.uses.filter (fun use => use.1 ≠ key) })

/-- The answer to one statement, or the message it fails with. -/
def respond (state : State) (text : String) (kind : StatementKind) :
    Except String (Answer Json) × State :=
  match state.script.responses with
  | .succeeding =>
      match kind with
      | .query => (.ok (.ofRows [.null]), state)
      | .exec => (.ok (.affected 1), state)
  | .listed replies fallback =>
      let (reply, state) :=
        match replies.lookup text with
        | some own => state.nextReply (some text) own
        | none => state.nextReply none fallback
      match reply with
      | .answer answer => (.ok answer, state)
      | .failure message => (.error message, state)
      | .unexpected => (.error ("unexpected statement: " ++ text), state)

/-- The answers to statements from a position on, up to the first that fails. -/
def respondAll (state : State) : Nat → List Statement → Answers Json × State
  | _, [] => (.ok [], state)
  | index, statement :: rest =>
      match state.respond statement.sql.text statement.kind with
      | (.error message, state) => (.error (.statement index message), state)
      | (.ok answer, state) =>
          match respondAll state (index + 1) rest with
          | (.error e, state) => (.error e, state)
          | (.ok answers, state) => (.ok (answer :: answers), state)

/-- Cut answers to the length of the script and add those it adds. -/
def adjust (script : Script) (answers : List (Answer Json)) : List (Answer Json) :=
  (match script.truncate with
    | some n => answers.take n
    | none => answers) ++ List.replicate script.pad (.affected 0)

end State

variable {S : Type}

/-- Record a call, wait for it, and fail if it is to fail. -/
def perform (call : Script → Call) (event : Event) : Work State S (Except DriverError Unit) := do
  let state ← Work.driver
  let call := call state.script
  if call.recorded then Work.changeDriver (·.emit event)
  if call.answers then Work.sleep call.delay else Work.never
  match call.failure with
  | some e => return .error e
  | none => return .ok ()

/-- Record that a transaction is gone without being finished. -/
def letGo (world : World State S) : World State S :=
  if world.driver.script.recordsDrop then { world with driver := world.driver.emit .drop }
  else world

/-- Finish a transaction; unless that succeeds the transaction is let go. -/
def finish (call : Script → Call) (event : Event) : Work State S (Except DriverError Unit) := do
  let result ← Work.onCut (perform call event) letGo
  match result with
  | .ok () => return .ok ()
  | .error e =>
      Work.change letGo
      return .error e

/-- Send statements and answer them. -/
def sendBatch (transactional : Bool) (statements : List Statement) :
    Work State S (Answers Json) := do
  match ← perform Script.send (.send transactional statements) with
  | .error e => return .error e
  | .ok () =>
      let script := (← Work.driver).script
      let answers ← Work.step fun world =>
        let (answers, state) := world.driver.respondAll 0 statements
        (answers, { world with driver := state })
      return answers.map (State.adjust script)

/-- Whether a ping is answered like a statement. -/
def answersPing (script : Script) : Bool :=
  script.pingNeedsReply ||
    match script.responses with
    | .listed replies _ => (replies.lookup ";").isSome
    | .succeeding => true

/-- Answer a ping. -/
def answerPing : Work State S (Except DriverError Unit) := do
  match ← perform Script.ping .ping with
  | .error e => return .error e
  | .ok () =>
      if answersPing (← Work.driver).script then
        let answer ← Work.step fun world =>
          let (answer, state) := world.driver.respond ";" .exec
          (answer, { world with driver := state })
        match answer with
        | .ok _ => return .ok ()
        | .error message => return .error (.connection message)
      else return .ok ()

/-- Begin a transaction. -/
def begin : Work State S (Except DriverError Nat) := do
  match ← perform Script.begin .begin with
  | .error e => return .error e
  | .ok () => Work.step fun world =>
      (.ok world.driver.nextTx,
        { world with driver := { world.driver with nextTx := world.driver.nextTx + 1 } })

/-- The driver. -/
def driver : Driver State Json where
  begin := begin
  ping := answerPing
  send := sendBatch false
  sendIn := fun _ => sendBatch true
  commit := fun _ => finish Script.commit .commit
  rollback := fun _ => finish Script.rollback .rollback
  letGo := fun _ => letGo

end Memory
end QueryBatch
