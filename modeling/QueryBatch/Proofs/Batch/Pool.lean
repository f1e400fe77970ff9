import QueryBatch.Batch.Context
import QueryBatch.Proofs.Batch.Work

/-!
# Pools that may answer anything

A pool is known by what passes between it and a program: a log of the calls that reached it and of
its answers, the oldest first. Before each answer it may look at the whole log and at the time, and
it may answer late or never, so the pools below cover every way in which a pool can behave towards
a program. The numbers of new transactions are the only thing that a pool does not choose: a new
number is one that the log does not mention.

A reply is received if it arrives by a limit. One that takes no time is received even after it.
-/

namespace QueryBatch

inductive PoolCall
  | begin
  | ping
  | send (statements : List Statement)
  | sendIn (tx : Nat) (statements : List Statement)
  | commit (tx : Nat)
  | rollback (tx : Nat)

/-- What passes between a program and a pool. -/
inductive PoolEvent
  | asked (call : PoolCall)
  | answered (call : PoolCall) (failure : Option DriverError)
  | began (tx : Nat)
  /-- The last handle of an unfinished transaction was dropped. -/
  | dropped (tx : Nat)

inductive PoolReply (α : Type)
  | never
  | after (ms : Nat) (answer : Except DriverError α)

/-- A pool, as its replies to a call that finds a log at a time. -/
structure AnyPool (ρ : Type) where
  /-- The replies to calls that send nothing. -/
  plain : List PoolEvent → Nat → PoolCall → PoolReply Unit
  /-- The replies to calls that send statements. -/
  rows : List PoolEvent → Nat → PoolCall → PoolReply (List (Answer ρ))

section Defs

variable {ρ S α : Type}

def PoolCall.tx? : PoolCall → Option Nat
  | .sendIn tx _ | .commit tx | .rollback tx => some tx
  | .begin | .ping | .send _ => none

def PoolEvent.tx? : PoolEvent → Option Nat
  | .asked call | .answered call _ => call.tx?
  | .began tx | .dropped tx => some tx

/-- A number that no event of a log mentions. -/
def freshTx (log : List PoolEvent) : Nat :=
  (log.filterMap PoolEvent.tx?).foldr (fun tx bound => max (tx + 1) bound) 0

def failure? : Except DriverError α → Option DriverError
  | .ok _ => none
  | .error e => some e

/-- Reach a pool with a call and wait for the reply to it. -/
def exchange (call : PoolCall) (reply : PoolReply α) :
    Work (List PoolEvent) S (Except DriverError α) := do
  Work.changeDriver fun log => log ++ [.asked call]
  match reply with
  | .never => Work.never
  | .after ms answer =>
      Work.sleep ms
      Work.changeDriver fun log => log ++ [.answered call (failure? answer)]
      return answer

namespace AnyPool

def askPlain (pool : AnyPool ρ) (call : PoolCall) :
    Work (List PoolEvent) S (Except DriverError Unit) := do
  let log ← Work.driver
  let now ← Work.now
  exchange call (pool.plain log now call)

def askRows (pool : AnyPool ρ) (call : PoolCall) : Work (List PoolEvent) S (Answers ρ) := do
  let log ← Work.driver
  let now ← Work.now
  exchange call (pool.rows log now call)

/-- Begin a transaction under a new number. -/
def askBegin (pool : AnyPool ρ) : Work (List PoolEvent) S (Except DriverError Nat) := do
  match ← pool.askPlain .begin with
  | .error e => return .error e
  | .ok () =>
      let log ← Work.driver
      Work.changeDriver fun log => log ++ [.began (freshTx log)]
      return .ok (freshTx log)

def driver (pool : AnyPool ρ) : Driver (List PoolEvent) ρ where
  begin := pool.askBegin
  ping := pool.askPlain .ping
  send statements := pool.askRows (.send statements)
  sendIn tx statements := pool.askRows (.sendIn tx statements)
  commit tx := pool.askPlain (.commit tx)
  rollback tx := pool.askPlain (.rollback tx)
  letGo tx world := { world with driver := world.driver ++ [.dropped tx] }

end AnyPool

/-- When a reply to a call at a time arrives and what it says, if it is received by a limit. -/
def PoolReply.received (now : Nat) (limit : Option Nat) :
    PoolReply α → Option (Nat × Except DriverError α)
  | .never => none
  | .after ms answer =>
      if ms = 0 ∨ ∀ l ∈ limit, now + ms ≤ l then some (now + ms, answer) else none

/-- The reply to a call that sends nothing, if it is received by a limit. -/
def AnyPool.acknowledged
    (pool : AnyPool ρ)
    (call : PoolCall)
    (limit : Option Nat)
    (log : List PoolEvent)
    (now : Nat) :
    Option (Nat × Except DriverError Unit) :=
  (pool.plain log now call).received now limit

/-- The reply to a call that sends statements, if it is received by a limit. -/
def AnyPool.received
    (pool : AnyPool ρ)
    (call : PoolCall)
    (limit : Option Nat)
    (log : List PoolEvent)
    (now : Nat) :
    Option (Nat × Except DriverError (List (Answer ρ))) :=
  (pool.rows log now call).received now limit

/-- What a call adds to the log: itself, and its answer if that is received. -/
def PoolCall.events
    {α : Type}
    (call : PoolCall)
    (received : Option (Nat × Except DriverError α)) :
    List PoolEvent :=
  .asked call :: (received.map fun reply => PoolEvent.answered call (failure? reply.2)).toList

def earliest (deadline cutoff : Option Nat) : Option Nat :=
  match deadline with
  | none => cutoff
  | some deadline => some (Work.earlier deadline cutoff)

/-- How work ends that waits in vain under a cut-off. -/
def lapsed (cutoff : Option Nat) : Ending α :=
  match cutoff with
  | none => .stuck
  | some _ => .cut

/-- How work ends that waits in vain under a deadline of its own and a cut-off. -/
def unanswered (deadline cutoff : Option Nat) (phase : Phase) : Ending (Except Error α) :=
  match deadline, cutoff with
  | none, none => .stuck
  | none, some _ => .cut
  | some _, none => .done (.error (.deadlineExceeded phase))
  | some deadline, some limit =>
      if deadline ≤ limit then .done (.error (.deadlineExceeded phase)) else .cut

/-- The world once a limit has been waited for. -/
def World.waited {σ : Type} (world : World σ S) (limit : Option Nat) : World σ S :=
  { world with now := limit.elim world.now (max world.now) }

def World.gain (world : World (List PoolEvent) S) (events : List PoolEvent) :
    World (List PoolEvent) S :=
  { world with driver := world.driver ++ events }

end Defs

section Numbers

theorem lt_foldr_max
    {txs : List Nat}
    {tx : Nat}
    (hmem : tx ∈ txs) :
    tx < txs.foldr (fun tx bound => max (tx + 1) bound) 0 := by
  induction txs with
  | nil => cases hmem
  | cons other rest ih =>
      rw [List.foldr_cons]
      rcases List.mem_cons.1 hmem with rfl | hrest
      · omega
      · have hlt := ih hrest
        omega

/-- A new number belongs to no transaction of the log. -/
theorem tx?_ne_freshTx
    {log : List PoolEvent}
    {event : PoolEvent}
    (hevent : event ∈ log) :
    event.tx? ≠ some (freshTx log) := by
  intro htx
  have hmem : freshTx log ∈ log.filterMap PoolEvent.tx? :=
    List.mem_filterMap.2 ⟨event, hevent, htx⟩
  exact Nat.lt_irrefl _ (lt_foldr_max hmem)

end Numbers

section Waiting

variable {σ S α : Type}
variable (cutoff : Option Nat) (world : World σ S)

/-- A line about a span is all that `World.record` leaves. -/
theorem World.record_eq
    {σ : Type}
    (world : World σ S)
    (fields : List (String × String)) :
    ∃ notes, world.record fields = { world with notes := notes } := by
  obtain ⟨now, spans, notes, openTx, driver, store⟩ := world
  cases spans with
  | nil => exact ⟨notes, rfl⟩
  | cons span spans => exact ⟨_, rfl⟩

theorem Work.run_never :
    (Work.never : Work σ S α).run cutoff world = (lapsed cutoff, world.waited cutoff) := by
  cases cutoff with
  | none => rfl
  | some limit => rfl

theorem Work.run_sleep
    (ms : Nat) :
    (Work.sleep ms).run cutoff world
      = if ms = 0 ∨ ∀ l ∈ cutoff, world.now + ms ≤ l then
          (.done (), { world with now := world.now + ms })
        else (.cut, world.waited cutoff) := by
  have hsleep : (Work.sleep ms).run cutoff world
      = (Work.sleepUntil (world.now + ms)).run cutoff world := rfl
  rw [hsleep]
  unfold Work.run Work.sleepUntil
  rcases Nat.eq_zero_or_pos ms with rfl | hms
  · simp
  · have hahead : ¬ world.now + ms ≤ world.now := by omega
    have hne : ms ≠ 0 := by omega
    rw [if_neg hahead]
    cases cutoff with
    | none => simp
    | some limit => simp [hne, World.waited]

variable {cutoff world}
variable {deadline : Option Nat} {phase : Phase} {w : Work σ S α}

/-- A deadline moves the cut-off of the work under it, and turns being cut off into an answer if
the deadline is what cut. -/
theorem run_until? :
    (until? deadline phase w).run cutoff world
      = (match (w.run (earliest deadline cutoff) world).1 with
          | .done a => .done (.ok a)
          | .stuck => .stuck
          | .cut => if deadline.isSome then unanswered deadline cutoff phase else .cut,
        (w.run (earliest deadline cutoff) world).2) := by
  cases deadline with
  | none =>
      simp only [until?, Work.run_map, earliest]
      rcases w.run cutoff world with ⟨_ | _ | _, left⟩ <;> rfl
  | some deadline =>
      simp only [until?, Work.run_bind, earliest, Work.run_giveUpAt]
      rcases w.run (some (Work.earlier deadline cutoff)) world with ⟨a | _ | _, left⟩
      · rfl
      · cases cutoff with
        | none => rfl
        | some limit =>
            by_cases hlimit : deadline ≤ limit <;> simp [unanswered, hlimit]
      · rfl

/-- Work that ends in time hands its answer on. -/
theorem until?_answered
    {a : α}
    {left : World σ S}
    (hrun : w.run (earliest deadline cutoff) world = (.done a, left)) :
    (until? deadline phase w).run cutoff world = (.done (.ok a), left) := by
  rw [run_until?, hrun]

/-- Work that waits in vain is given up at the deadline, unless the cut-off ends it first. -/
theorem until?_lapsed
    {left : World σ S}
    (hrun : w.run (earliest deadline cutoff) world = (lapsed (earliest deadline cutoff), left)) :
    (until? deadline phase w).run cutoff world = (unanswered deadline cutoff phase, left) := by
  rw [run_until?, hrun]
  cases deadline with
  | none => cases cutoff <;> rfl
  | some deadline => rfl

theorem keeps_until?
    {R : World σ S → World σ S → Prop}
    (hw : w.Keeps R)
    (deadline : Option Nat)
    (phase : Phase) :
    (until? deadline phase w).Keeps R := by
  intro cutoff world
  rw [run_until?]
  exact hw _ world

theorem keeps_sleep
    {R : World σ S → World σ S → Prop}
    (hframe : Frame R)
    (ms : Nat) :
    (Work.sleep ms).Keeps R := by
  intro cutoff world
  rw [Work.run_sleep]
  split <;> exact hframe.quiet rfl rfl

theorem keeps_never
    {R : World σ S → World σ S → Prop}
    (hframe : Frame R) :
    (Work.never : Work σ S α).Keeps R := by
  intro cutoff world
  rw [Work.run_never]
  exact hframe.quiet rfl rfl

theorem unanswered_ne_ok
    {α : Type}
    (deadline cutoff : Option Nat)
    (phase : Phase)
    (a : α) :
    unanswered deadline cutoff phase ≠ .done (.ok a) := by
  unfold unanswered
  rcases deadline with _ | deadline <;> rcases cutoff with _ | limit <;> simp only
  case some.some => split <;> simp
  all_goals simp

theorem eq_of_unanswered
    {deadline cutoff : Option Nat}
    {phase : Phase}
    {e : Error}
    (hunanswered : (unanswered deadline cutoff phase : Ending (Except Error α))
      = .done (.error e)) :
    e = .deadlineExceeded phase := by
  unfold unanswered at hunanswered
  split at hunanswered
  · cases hunanswered
  · cases hunanswered
  · exact (Except.error.inj (Ending.done.inj hunanswered)).symm
  · split at hunanswered
    · exact (Except.error.inj (Ending.done.inj hunanswered)).symm
    · cases hunanswered

theorem andThen_lapsed
    {β : Type}
    (next : α → World σ S → Ending β × World σ S) :
    Ending.andThen (lapsed cutoff, world) next = (lapsed cutoff, world) := by
  cases cutoff <;> rfl

/-- Work that hands errors on ends like the wait in front of it, if that was in vain. -/
theorem andThen_unanswered
    {β : Type}
    {next : Except Error α → World σ S → Ending (Except Error β) × World σ S}
    (hnext : ∀ e left, next (.error e) left = (.done (.error e), left)) :
    Ending.andThen (unanswered deadline cutoff phase, world) next
      = (unanswered deadline cutoff phase, world) := by
  unfold unanswered
  rcases deadline with _ | deadline <;> rcases cutoff with _ | limit
  · rfl
  · rfl
  · exact hnext _ world
  · by_cases hlimit : deadline ≤ limit
    · simpa [hlimit] using hnext _ world
    · simp [hlimit]

end Waiting

section Exchanges

variable {ρ S α : Type}
variable {cutoff : Option Nat} {world : World (List PoolEvent) S}

@[simp]
theorem World.driver_gain
    (events : List PoolEvent) :
    (world.gain events).driver = world.driver ++ events :=
  rfl

@[simp]
theorem World.openTx_gain
    (events : List PoolEvent) :
    (world.gain events).openTx = world.openTx :=
  rfl

@[simp]
theorem World.driver_waited
    (limit : Option Nat) :
    (world.waited limit).driver = world.driver :=
  rfl

@[simp]
theorem World.openTx_waited
    (limit : Option Nat) :
    (world.waited limit).openTx = world.openTx :=
  rfl

theorem PoolReply.le_received
    {reply : PoolReply α}
    {now time : Nat}
    {limit : Option Nat}
    {answer : Except DriverError α}
    (hreceived : reply.received now limit = some (time, answer)) :
    now ≤ time := by
  cases reply with
  | never => cases hreceived
  | after ms answer =>
      simp only [PoolReply.received] at hreceived
      split at hreceived
      · obtain ⟨rfl, -⟩ := Prod.mk.inj (Option.some.inj hreceived)
        exact Nat.le_add_right now ms
      · cases hreceived

/-- A reply is received no later than at the limit, or at once. -/
theorem PoolReply.received_le
    {reply : PoolReply α}
    {now time limit : Nat}
    {answer : Except DriverError α}
    (hreceived : reply.received now (some limit) = some (time, answer)) :
    time ≤ max now limit := by
  cases reply with
  | never => cases hreceived
  | after ms answer =>
      simp only [PoolReply.received] at hreceived
      split at hreceived
      · next hin =>
          obtain ⟨rfl, -⟩ := Prod.mk.inj (Option.some.inj hreceived)
          rcases hin with rfl | hlimit
          · omega
          · have := hlimit limit rfl
            omega
      · cases hreceived

/-- A call reaches the pool at once. It is answered if the reply is received by the cut-off. -/
theorem run_exchange
    (call : PoolCall)
    (reply : PoolReply α) :
    (exchange call reply).run cutoff world
      = match reply.received world.now cutoff with
        | some (time, answer) =>
            (.done answer, { world with now := time }.gain
              [.asked call, .answered call (failure? answer)])
        | none => (lapsed cutoff, (world.waited cutoff).gain [.asked call]) := by
  cases reply with
  | never =>
      simp only [exchange, Work.run_bind, Work.run_changeDriver, Ending.andThen_done,
        Work.run_never]
      rfl
  | after ms answer =>
      simp only [exchange, Work.run_bind, Work.run_changeDriver, Ending.andThen_done,
        Work.run_sleep, PoolReply.received]
      by_cases htime : ms = 0 ∨ ∀ l ∈ cutoff, world.now + ms ≤ l
      · rw [if_pos htime, if_pos htime]
        simp [World.gain]
      · obtain ⟨-, hlimit⟩ := not_or.1 htime
        rw [if_neg htime, if_neg htime]
        cases cutoff with
        | none => simp at hlimit
        | some limit => rfl

theorem run_askPlain
    (pool : AnyPool ρ)
    (call : PoolCall) :
    (pool.askPlain call).run cutoff world
      = match pool.acknowledged call cutoff world.driver world.now with
        | some (time, answer) =>
            (.done answer, { world with now := time }.gain
              [.asked call, .answered call (failure? answer)])
        | none => (lapsed cutoff, (world.waited cutoff).gain [.asked call]) := by
  have hplain : (pool.askPlain call).run cutoff world
      = (exchange call (pool.plain world.driver world.now call)).run cutoff world := rfl
  rw [hplain, run_exchange]
  unfold AnyPool.acknowledged
  cases (pool.plain world.driver world.now call).received world.now cutoff <;> rfl

theorem run_askRows
    (pool : AnyPool ρ)
    (call : PoolCall) :
    (pool.askRows call).run cutoff world
      = match pool.received call cutoff world.driver world.now with
        | some (time, answer) =>
            (.done answer, { world with now := time }.gain
              [.asked call, .answered call (failure? answer)])
        | none => (lapsed cutoff, (world.waited cutoff).gain [.asked call]) := by
  have hrows : (pool.askRows call).run cutoff world
      = (exchange call (pool.rows world.driver world.now call)).run cutoff world := rfl
  rw [hrows, run_exchange]
  unfold AnyPool.received
  cases (pool.rows world.driver world.now call).received world.now cutoff <;> rfl

/-- Sending statements under a deadline is one call, whose answer is handed on if it is received
by the earlier one of the deadline and the cut-off. -/
theorem run_within_askRows
    (pool : AnyPool ρ)
    (ctx : Context)
    (phase : Phase)
    (call : PoolCall) :
    (within ctx phase (pool.askRows call)).run cutoff world
      = match pool.received call (earliest ctx.deadline cutoff) world.driver world.now with
        | some (time, answer) =>
            (.done (.ok answer), { world with now := time }.gain
              [.asked call, .answered call (failure? answer)])
        | none =>
            (unanswered ctx.deadline cutoff phase,
              (world.waited (earliest ctx.deadline cutoff)).gain [.asked call]) := by
  have hrows : (pool.askRows call).run (earliest ctx.deadline cutoff) world = _ :=
    run_askRows pool call
  unfold within
  cases hreply : pool.received call (earliest ctx.deadline cutoff) world.driver world.now with
  | none =>
      rw [hreply] at hrows
      exact until?_lapsed hrows
  | some reply =>
      rw [hreply] at hrows
      exact until?_answered hrows

/-- An exchange adds the call to the log, and its answer if that is received. -/
inductive Exchanged (call : PoolCall) : List PoolEvent → Prop
  | unanswered : Exchanged call [.asked call]
  | answered
      (failure : Option DriverError) :
      Exchanged call [.asked call, .answered call failure]

/-- An exchange keeps what its own events keep. -/
theorem keeps_exchange
    {R : World (List PoolEvent) S → World (List PoolEvent) S → Prop}
    {call : PoolCall}
    (hcall : ∀ (before after : World (List PoolEvent) S) gained, Exchanged call gained →
      after.driver = before.driver ++ gained → after.openTx = before.openTx → R before after)
    (reply : PoolReply α) :
    (exchange call reply).Keeps R := by
  intro cutoff world
  rw [run_exchange]
  cases reply.received world.now cutoff with
  | none => exact hcall world _ _ .unanswered rfl rfl
  | some received => exact hcall world _ _ (.answered _) rfl rfl

theorem keeps_askRows
    (pool : AnyPool ρ)
    {R : World (List PoolEvent) S → World (List PoolEvent) S → Prop}
    {call : PoolCall}
    (hcall : ∀ (before after : World (List PoolEvent) S) gained, Exchanged call gained →
      after.driver = before.driver ++ gained → after.openTx = before.openTx → R before after) :
    (pool.askRows call).Keeps R := by
  intro cutoff world
  exact keeps_exchange hcall (pool.rows world.driver world.now call) cutoff world

end Exchanges
end QueryBatch
