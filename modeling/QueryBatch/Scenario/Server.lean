import QueryBatch.Postgres.Network
import QueryBatch.Postgres.Session
import QueryBatch.Sql.Compact

/-!
# A scripted server

A server that answers requests from a script. It reads the requests of each connection one after
the other, each once its predecessor is answered, and goes on reading what was posted on a
connection that its client has left. Everything it reads goes into a log. The earliest event of all
connections comes first, and of two at the same time the one whose request was posted first.
-/

namespace QueryBatch
namespace Scripted

open Postgres

/-- The value of a cell in a script. -/
inductive Source
  | cell (cell : Cell)
  /-- The last identifier that the client made up. -/
  | lastMade
  deriving Inhabited

/-- How a request ends. -/
inductive Outcome
  /-- With rows under columns, and a command tag if there is one. -/
  | rows (columns : List Column) (rows : List (List Source)) (tag : Option String)
  | error
  /-- The connection is closed without an answer. -/
  | close
  deriving Inhabited

/-- What a request does. -/
structure Behaviour where
  /-- Milliseconds before it ends. -/
  delay : Nat := 0
  outcome : Outcome := .rows [] [] (some "INSERT 0 1")
  /-- Milliseconds from the answer until the server closes the connection, if it does. -/
  leaveAfter : Option Nat := none
  deriving Inhabited

/-- What a client has to show before it is served. -/
inductive Admittance
  | anybody
  | nobody
  /-- A password, which may be any. -/
  | password (expected : Option String)
  deriving Inhabited

/-- What the server does. Lists of behaviours are used up one by one, the last one repeating. -/
structure Script where
  /-- The connections that are closed before they are served. -/
  turnedAway : List Nat := []
  admittance : Admittance := .anybody
  /-- Whether the client insists on encryption. -/
  encrypted : Bool := false
  /-- Scripts by their exact text. -/
  scripts : List (String × List Behaviour) := []
  /-- Statements by a part of their compacted text. -/
  rules : List (String × List Behaviour) := []
  fallback : List Behaviour := [{}]
  deriving Inhabited

/-- What the client names itself with. -/
structure Client where
  user : String := "tester"
  password : String := "secret"
  database : String := "library"
  deriving Inhabited

/-- A line of the log. -/
inductive Event
  | startup (connection : Nat) (parameters : List (String × String))
  | password (connection : Nat) (text : String)
  | turnedAway (connection : Nat)
  | script (connection : Nat) (text : String)
  | statement (connection : Nat) (text : String) (params : List Param)
  | closed (connection : Nat)
  deriving Inhabited

/-- What the server is doing on a connection. -/
inductive Phase
  | reading
  /-- It will end the request of a ticket. -/
  | answering (ticket : Nat) (request : Request) (behaviour : Behaviour)
  /-- It will close the connection after the request of a ticket. -/
  | leaving (ticket : Nat)
  | gone

/-- A request that waits to be read: its ticket and when it was posted. -/
structure Letter where
  ticket : Nat
  posted : Nat
  request : Request

/-- The server's end of a connection. -/
structure Link where
  number : Nat
  session : Session String := {}
  inbox : List Letter := []
  phase : Phase := .reading
  /-- When the phase ends or, in reading, began. -/
  since : Nat
  /-- Whether the client has not left. -/
  attached : Bool := true

/-- The state of the server. -/
structure Server where
  script : Script
  client : Client := {}
  links : List Link := []
  /-- The replies that came, by ticket. -/
  replies : List (Nat × Except Fault Reply) := []
  nextTicket : Nat := 0
  nextConnection : Nat := 0
  /-- How often each list of behaviours was used. -/
  uses : List (String × Nat) := []
  /-- The identifiers that the client may make up. -/
  madeUp : Uuid → Bool := fun _ => false
  /-- The number of identifiers that it made up. -/
  nextMade : Nat := 0
  /-- The made-up identifiers that were read, the newest first. -/
  made : List Uuid := []
  /-- The newest first. -/
  log : List Event := []

/-- Whether a text holds another one. -/
def holds (part : List Char) : List Char → Bool
  | [] => part.isEmpty
  | c :: cs => part.isPrefixOf (c :: cs) || holds part cs

/-- A decimal number of at most 64 bits with an optional plus. -/
def readCount (cs : List Char) : Option Nat :=
  let digits := match cs with
    | '+' :: rest => rest
    | cs => cs
  if digits.isEmpty || !digits.all Char.isDigit then none
  else
    let n := digits.foldl (fun n c => 10 * n + (c.toNat - '0'.toNat)) 0
    if n < UInt64.size then some n else none

/-- The number of affected rows in a command tag: what follows the last space, if it is a number. -/
def affectedRows (tag : String) : Nat :=
  (readCount (tag.toList.reverse.takeWhile (· ≠ ' ')).reverse).getD 0

namespace Link

/-- When the next event of a connection comes, and the ticket of its request. -/
def next? (link : Link) : Option (Nat × Nat) :=
  match link.phase with
  | .reading => link.inbox.head?.map fun letter => (max letter.posted link.since, letter.ticket)
  | .answering ticket _ _ => some (link.since, ticket)
  | .leaving ticket => some (link.since, ticket)
  | .gone => none

/-- Whether the connection is open. -/
def isOpen (link : Link) : Bool :=
  match link.phase with
  | .gone => false
  | _ => true

/-- A bound on the number of events to come. -/
def budget (link : Link) : Nat := 3 * link.inbox.length + 3

end Link

namespace Server

/-- The next behaviour of a list that goes by a name. -/
def nextBehaviour (server : Server) (key : String) (behaviours : List Behaviour) :
    Behaviour × Server :=
  let used := (server.uses.lookup key).getD 0
  (behaviours[min used (behaviours.length - 1)]?.getD {},
    { server with uses := (key, used + 1) :: server.uses.filter (·.1 ≠ key) })

/-- The behaviour of a text that the rules decide on. -/
def byRule (server : Server) (text : String) : Behaviour × Server :=
  let compacted := (Sql.compact text).toList
  match server.script.rules.find? fun rule => holds rule.1.toList compacted with
  | some (part, behaviours) => server.nextBehaviour ("rule " ++ part) behaviours
  | none => server.nextBehaviour "fallback" server.script.fallback

/-- The scripts that are decided on by their exact text. -/
def commands : List String := [";", "BEGIN", "COMMIT", "ROLLBACK"]

/-- What a request does. -/
def behaviour (server : Server) : Request → Behaviour × Server
  | .script text =>
      if commands.contains text then
        match server.script.scripts.lookup text with
        | some behaviours => server.nextBehaviour ("script " ++ text) behaviours
        | none => ({}, server)
      else server.byRule text
  | .statement sql => server.byRule sql.text

/-- Write a line. -/
def write (server : Server) (event : Event) : Server :=
  { server with log := event :: server.log }

/-- Note the made-up identifiers among parameters. -/
def noteMade (server : Server) (params : List Param) : Server :=
  { server with made := params.foldl (fun made param =>
      match param with
      | .uuid u => if server.madeUp u && !made.contains u then u :: made else made
      | _ => made) server.made }

/-- Write a line about a request. -/
def writeRequest (server : Server) (connection : Nat) : Request → Server
  | .script text => server.write (.script connection text)
  | .statement sql =>
      (server.noteMade sql.params).write (.statement connection sql.text sql.params)

/-- Replace the end of a connection. -/
def put (server : Server) (link : Link) : Server :=
  { server with links := server.links.map fun other =>
      if other.number = link.number then link else other }

/-- Reply to the request of a ticket. -/
def reply (server : Server) (ticket : Nat) (result : Except Fault Reply) : Server :=
  { server with replies := (ticket, result) :: server.replies }

/-- The cell of a script. -/
def cell (server : Server) : Source → Cell
  | .cell cell => cell
  | .lastMade => (server.made.head?.map Cell.uuid).getD .null

/-- The reply with rows. -/
def rowsReply (server : Server) (columns : List Column) (rows : List (List Source))
    (tag : Option String) : Reply :=
  { rows := rows.map fun row => ⟨columns.zip (row.map server.cell)⟩
    affected := tag.map affectedRows }

/-- Close a connection: every request on it that has no reply yet is told so. -/
def hangUp (server : Server) (link : Link) (tickets : List Nat) : Server :=
  let tickets := tickets ++ link.inbox.map Letter.ticket
  let server := server.put { link with phase := .gone, inbox := [] }
  tickets.foldl (fun server ticket => server.reply ticket (.error .closed))
    (server.write (.closed link.number))

/-- End a request at a time. Answers whether the connection was closed. -/
def finish (server : Server) (link : Link) (time ticket : Nat) (request : Request)
    (behaviour : Behaviour) : Server × Bool :=
  let rest (session : Session String) : Link :=
    match behaviour.leaveAfter with
    | none => { link with session := session, phase := .reading, since := time }
    | some ms => { link with session := session, phase := .leaving ticket, since := time + ms }
  match behaviour.outcome with
  | .close => (server.hangUp link [ticket], true)
  | .error =>
      ((server.put (rest (link.session.afterFailure request))).reply ticket
        (.error .refused), false)
  | .rows columns rows tag =>
      let answer := server.rowsReply columns rows tag
      ((server.put (rest (link.session.afterSuccess request))).reply ticket
        (.ok answer), false)

/-- Read the next request of a connection at a time. -/
def readNext (server : Server) (link : Link) (time : Nat) : Server × Bool :=
  match link.inbox with
  | [] => (server, false)
  | letter :: inbox =>
      let server := server.writeRequest link.number letter.request
      let link := { link with inbox := inbox }
      if link.session.refuses && !letter.request.endsBlock then
        server.finish link time letter.ticket letter.request { outcome := .error }
      else
        let (behaviour, server) := server.behaviour letter.request
        if behaviour.delay = 0 then
          server.finish link time letter.ticket letter.request behaviour
        else
          (server.put { link with
            phase := .answering letter.ticket letter.request behaviour
            since := time + behaviour.delay }, false)

/-- Let the next event of a connection happen. Answers whether the connection was closed under a
client that had not left or had requests without a reply. -/
def happen (server : Server) (link : Link) (time : Nat) : Server × Bool :=
  match link.phase with
  | .reading => server.readNext link time
  | .answering ticket request behaviour => server.finish link time ticket request behaviour
  | .leaving _ => (server.hangUp link [], link.attached || !link.inbox.isEmpty)
  | .gone => (server, false)

/-- The earlier of two events. -/
def sooner (a b : Nat × Nat × Link) : Nat × Nat × Link :=
  if b.1 < a.1 ∨ (b.1 = a.1 ∧ b.2.1 < a.2.1) then b else a

/-- The earliest event: its time, the ticket of its request and its connection. -/
def next? (server : Server) : Option (Nat × Nat × Link) :=
  server.links.foldl (fun best link =>
    match best, link.next? with
    | none, some (time, ticket) => some (time, ticket, link)
    | some a, some (time, ticket) => some (sooner a (time, ticket, link))
    | best, none => best) none

/-- A bound on the number of events to come. -/
def budget (server : Server) : Nat := (server.links.map Link.budget).foldr (· + ·) 0

variable {S : Type}

/-- Let an event happen in the world. -/
def happenIn (time : Nat) (link : Link) (world : World Server S) : World Server S :=
  let (server, lost) := world.driver.happen link time
  let world := { world with driver := server }
  if lost then
    world.noteOutside "WARN"
      [("message", "database connection failed"), ("error", Fault.closed.message)]
  else world

/-- Let everything happen that comes before a moment, in at most `fuel` events. -/
def settleUntil (moment : Nat) : Nat → World Server S → World Server S
  | 0, world => world
  | fuel + 1, world =>
      match world.driver.next? with
      | some (time, _, link) =>
          if time < moment then settleUntil moment fuel (happenIn time link world) else world
      | none => world

/-- Catch up with what happened before now. -/
def settle (world : World Server S) : World Server S :=
  settleUntil world.now world.driver.budget world

/-- Wait for the reply to the request of a ticket, for at most `fuel` events. -/
def awaitReply (ticket : Nat) : Nat → Work Server S (Except Fault Reply)
  | 0 => Work.never
  | fuel + 1 => fun cutoff world =>
      match world.driver.replies.lookup ticket with
      | some result => (.done result, world)
      | none =>
          match world.driver.next? with
          | none => Work.never cutoff world
          | some (time, _, link) =>
              let time := max time world.now
              let proceed : Unit → Ending (Except Fault Reply) × World Server S := fun _ =>
                awaitReply ticket fuel cutoff (happenIn time link { world with now := time })
              match cutoff with
              | none => proceed ()
              | some limit =>
                  if time < limit then proceed ()
                  else (.cut, { world with now := max world.now limit })

/-- Wait for the reply to the request of a ticket. -/
def await (ticket : Nat) : Work Server S (Except Fault Reply) := fun cutoff world =>
  awaitReply ticket (world.driver.budget + 1) cutoff world

/-- Give way to a cut-off that has come. -/
def giveWay : Work Server S Unit := fun cutoff world =>
  match cutoff with
  | none => (.done (), world)
  | some limit => if world.now < limit then (.done (), world) else (.cut, world)

/-- Take the next number for a connection. -/
def nextNumber : Work Server S Nat := Work.step fun world =>
  let server := world.driver
  (server.nextConnection,
    { world with driver := { server with nextConnection := server.nextConnection + 1 } })

/-- The parameters that a client starts with. -/
def startParameters (client : Client) : List (String × String) :=
  [("client_encoding", "UTF8"), ("database", client.database), ("user", client.user)]

/-- Serve a new connection, or do not. -/
def welcome (number now : Nat) (server : Server) : Except Fault Nat × Server :=
  if server.script.turnedAway.contains number then
    (.error .closed, server.write (.turnedAway number))
  else
    let server := server.write (.startup number (startParameters server.client))
    let served := { server with links := server.links ++ [{ number := number, since := now }] }
    match server.script.admittance with
    | .anybody => (.ok number, served)
    | .nobody => (.error .refused, server)
    | .password expected =>
        let event := Event.password number server.client.password
        if expected.all (· = server.client.password) then (.ok number, served.write event)
        else (.error .refused, server.write event)

/-- Open a connection. -/
def connect : Work Server S (Except Fault Nat) := do
  let number ← nextNumber
  giveWay
  Work.change fun world => settleUntil (world.now + 1) world.driver.budget world
  Work.step fun world =>
    if world.driver.script.encrypted then (.error .handshake, world)
    else
      let (result, server) := welcome number world.now world.driver
      (result, { world with driver := server })

/-- Post a request. -/
def post (connection now : Nat) (request : Request) (server : Server) : Nat × Server :=
  let ticket := server.nextTicket
  (ticket,
    { server with
      nextTicket := ticket + 1
      links := server.links.map fun link =>
        if link.number = connection then
          { link with inbox := link.inbox ++ [⟨ticket, now, request⟩] }
        else link })

/-- Whether a connection is open. -/
def isOpen (server : Server) (connection : Nat) : Bool :=
  server.links.any fun link => link.number = connection && link.isOpen

/-- A client leaves a connection. -/
def leave (connection : Nat) (server : Server) : Server :=
  { server with links := server.links.map fun link =>
      if link.number = connection then { link with attached := false } else link }

/-- The network of the server. -/
def network : Network Server where
  connect := connect
  isOpen := isOpen
  post := post
  await := fun _ ticket => await ticket
  leave := leave
  settle := settle

/-- Take the log out, the newest line first. -/
def drain (server : Server) : List Event × Server := (server.log, { server with log := [] })

end Server
end Scripted
end QueryBatch
