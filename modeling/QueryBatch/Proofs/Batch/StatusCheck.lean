import QueryBatch.Batch.Health
import QueryBatch.Proofs.Batch.Pool

/-!
# The course of a status check

A status check is watched over a log that keeps the time of each event, so that the waits between
its pings can be read off. The pool behind it may answer each ping and the query as late as it
likes, or never.

What a check does is fixed by the replies that it receives in time. It comes back to its loop after
each ping that failed if the wait ends before the deadline (`StatusCheck.Retried`), and from there
it ends in one of five ways (`StatusCheck.Ends`). The waits grow, so there are only finitely many
pings.
-/

namespace QueryBatch

variable {ρ S α : Type}

section Defs

/-- What a log says that keeps the times. -/
def said (log : List (Nat × PoolEvent)) : List PoolEvent := log.map Prod.snd

/-- Write down what happens, and when. -/
def stamp (event : PoolEvent) : Work (List (Nat × PoolEvent)) S Unit :=
  Work.change fun world => { world with driver := world.driver ++ [(world.now, event)] }

/-- Reach a pool with a call and wait for the reply to it, over a log that keeps the times. -/
def exchangeStamped (call : PoolCall) (reply : PoolReply α) :
    Work (List (Nat × PoolEvent)) S (Except DriverError α) := do
  stamp (.asked call)
  match reply with
  | .never => Work.never
  | .after ms answer =>
      Work.sleep ms
      stamp (.answered call (failure? answer))
      return answer

namespace AnyPool

def clockPlain (pool : AnyPool ρ) (call : PoolCall) :
    Work (List (Nat × PoolEvent)) S (Except DriverError Unit) := do
  let log ← Work.driver
  let now ← Work.now
  exchangeStamped call (pool.plain (said log) now call)

def clockRows (pool : AnyPool ρ) (call : PoolCall) :
    Work (List (Nat × PoolEvent)) S (Answers ρ) := do
  let log ← Work.driver
  let now ← Work.now
  exchangeStamped call (pool.rows (said log) now call)

def clockBegin (pool : AnyPool ρ) : Work (List (Nat × PoolEvent)) S (Except DriverError Nat) := do
  match ← pool.clockPlain .begin with
  | .error e => return .error e
  | .ok () =>
      let log ← Work.driver
      stamp (.began (freshTx (said log)))
      return .ok (freshTx (said log))

/-- The driver of a pool over a log that keeps the times. -/
def clocked (pool : AnyPool ρ) : Driver (List (Nat × PoolEvent)) ρ where
  begin := pool.clockBegin
  ping := pool.clockPlain .ping
  send statements := pool.clockRows (.send statements)
  sendIn tx statements := pool.clockRows (.sendIn tx statements)
  commit tx := pool.clockPlain (.commit tx)
  rollback tx := pool.clockPlain (.rollback tx)
  letGo tx world := { world with driver := world.driver ++ [(world.now, .dropped tx)] }

end AnyPool

/-- A ping that failed: when its error arrived, and the error. -/
structure FailedPing where
  time : Nat
  error : DriverError

/-- A status check of a pool: its deadline, the time it starts at and the log that it finds. -/
structure StatusCheck (ρ : Type) where
  pool : AnyPool ρ
  deadline : Nat
  start : Nat
  log : List (Nat × PoolEvent)

namespace StatusCheck

variable (check : StatusCheck ρ)

/-- The status check that a world begins under a context. -/
def of (pool : AnyPool ρ) (ctx : Context) (world : World (List (Nat × PoolEvent)) S) :
    StatusCheck ρ :=
  ⟨pool, ctx.deadline.getD (world.now + 1000), world.now, world.driver⟩

/-- When the next ping is made after pings that failed, the newest first: at once, or after a wait
of as many hundred milliseconds as pings failed. -/
def nextPing : List FailedPing → Nat
  | [] => check.start
  | p :: failed => p.time + 100 * (failed.length + 1)

/-- What failed pings leave in the log. -/
def events : List FailedPing → List (Nat × PoolEvent)
  | [] => []
  | p :: failed =>
      events failed
        ++ [(check.nextPing failed, .asked .ping), (p.time, .answered .ping (some p.error))]

/-- The reply to the ping after failed ones, if it is received by the deadline. -/
def ping (failed : List FailedPing) : Option (Nat × Except DriverError Unit) :=
  check.pool.acknowledged .ping (some check.deadline) (said (check.log ++ check.events failed))
    (check.nextPing failed)

/-- Pings that failed in time, the newest first, each with a wait that ends before the deadline. -/
def Retried : List FailedPing → Prop
  | [] => True
  | p :: failed => Retried failed ∧ check.ping failed = some (p.time, .error p.error) ∧
      check.nextPing (p :: failed) < check.deadline

/-- What a ping that succeeded after failed ones leaves in the log, with them. -/
def pinged (failed : List FailedPing) (time : Nat) : List (Nat × PoolEvent) :=
  check.events failed ++ [(check.nextPing failed, .asked .ping), (time, .answered .ping none)]

/-- The reply to the query after a ping that succeeded, if it is received by the deadline. -/
def query (failed : List FailedPing) (time : Nat) :
    Option (Nat × Except DriverError (List (Answer ρ))) :=
  check.pool.received (.send [Driver.healthQuery]) (some check.deadline)
    (said (check.log ++ check.pinged failed time)) time

/-- How a check ends once it has sent the query: its result, what it adds to the log, and when. -/
inductive Queried (failed : List FailedPing) (time : Nat) :
    Except HealthError Unit → List (Nat × PoolEvent) → Nat → Prop
  | unanswered
      (hquery : check.query failed time = none) :
      Queried failed time
        (.error (.timeout (failed.length + 1) (failed.head?.map FailedPing.error))) []
        (max time check.deadline)
  | failed
      {answered : Nat}
      {e : DriverError}
      (hquery : check.query failed time = some (answered, .error e)) :
      Queried failed time (.error (.query e))
        [(answered, .answered (.send [Driver.healthQuery]) (some e))] answered
  | healthy
      {answered : Nat}
      {answer : Answer ρ}
      {answers : List (Answer ρ)}
      (hquery : check.query failed time = some (answered, .ok (answer :: answers)))
      (hrows : answer.rows.length = 1) :
      Queried failed time (.ok ())
        [(answered, .answered (.send [Driver.healthQuery]) none)] answered
  | unexpectedRows
      {answered : Nat}
      {answers : List (Answer ρ)}
      (hquery : check.query failed time = some (answered, .ok answers))
      (hrows : (answers.head?.map fun answer => answer.rows.length) ≠ some 1) :
      Queried failed time
        (.error (.unexpectedRows ((answers.head?.map fun answer => answer.rows.length).getD 0)))
        [(answered, .answered (.send [Driver.healthQuery]) none)] answered

/-- How a check ends after failed pings: its result, what it leaves in the log, and when. -/
inductive Ends (failed : List FailedPing) :
    Except HealthError Unit → List (Nat × PoolEvent) → Nat → Prop
  | unanswered
      (hping : check.ping failed = none) :
      Ends failed (.error (.timeout (failed.length + 1) (failed.head?.map FailedPing.error)))
        (check.events failed ++ [(check.nextPing failed, .asked .ping)])
        (max (check.nextPing failed) check.deadline)
  | unreachable
      {time : Nat}
      {e : DriverError}
      (hping : check.ping failed = some (time, .error e))
      (hwake : check.deadline ≤ check.nextPing (⟨time, e⟩ :: failed)) :
      Ends failed (.error (.unreachable (failed.length + 1) e))
        (check.events (⟨time, e⟩ :: failed)) time
  | queried
      {time ended : Nat}
      {result : Except HealthError Unit}
      {rest : List (Nat × PoolEvent)}
      (hping : check.ping failed = some (time, .ok ()))
      (hqueried : check.Queried failed time result rest ended) :
      Ends failed result
        (check.pinged failed time ++ (time, .asked (.send [Driver.healthQuery])) :: rest) ended

end StatusCheck

/-- How a call under a deadline ends: with its answer if the reply is received by then, and given up
otherwise. Either way the log tells when it was made. -/
def World.called (world : World (List (Nat × PoolEvent)) S) (deadline : Nat) (call : PoolCall) :
    Option (Nat × Except DriverError α) →
      Ending (Option (Except DriverError α)) × World (List (Nat × PoolEvent)) S
  | some (time, answer) =>
      (.done (some answer), { world with
        now := time
        driver := world.driver
          ++ [(world.now, .asked call), (time, .answered call (failure? answer))] })
  | none =>
      (.done none, { world with
        now := max world.now deadline
        driver := world.driver ++ [(world.now, .asked call)] })

def PoolEvent.isPing : PoolEvent → Bool
  | .asked .ping => true
  | _ => false

def PoolEvent.isSend : PoolEvent → Bool
  | .asked (.send _) => true
  | _ => false

/-- How many pings a log tells of. -/
def pingCount (log : List (Nat × PoolEvent)) : Nat := (said log).countP PoolEvent.isPing

/-- How many times a log tells of statements that were sent outside of transactions. -/
def sendCount (log : List (Nat × PoolEvent)) : Nat := (said log).countP PoolEvent.isSend

end Defs

section Waiting

theorem run_giveUpAt_exchangeStamped
    (world : World (List (Nat × PoolEvent)) S)
    (deadline : Nat)
    (call : PoolCall)
    (reply : PoolReply α) :
    (Work.giveUpAt deadline (exchangeStamped call reply)).run none world
      = world.called deadline call (reply.received world.now (some deadline)) := by
  rw [Work.run_giveUpAt]
  cases reply with
  | never => rfl
  | after ms answer =>
      simp only [exchangeStamped, stamp, Work.run_bind, Work.run_change, Ending.andThen_done,
        Work.run_sleep, PoolReply.received, Work.earlier]
      by_cases htime : ms = 0 ∨ ∀ l ∈ some deadline, world.now + ms ≤ l
      · rw [if_pos htime, if_pos htime]
        simp [World.called]
      · rw [if_neg htime, if_neg htime]
        rfl

theorem run_sleepUntil_ahead
    {σ : Type}
    {world : World σ S}
    {wake : Nat}
    (hwake : world.now < wake) :
    (Work.sleepUntil wake).run none world = (.done (), { world with now := wake }) :=
  if_neg (Nat.not_le.2 hwake)

end Waiting

section Histories

variable {check : StatusCheck ρ} {failed : List FailedPing}

theorem le_ping
    {time : Nat}
    {answer : Except DriverError Unit}
    (hping : check.ping failed = some (time, answer)) :
    check.nextPing failed ≤ time :=
  PoolReply.le_received hping

theorem ping_le
    {time : Nat}
    {answer : Except DriverError Unit}
    (hping : check.ping failed = some (time, answer)) :
    time ≤ max (check.nextPing failed) check.deadline :=
  PoolReply.received_le hping

/-- Each wait takes a tenth of a second more than the one before. -/
theorem StatusCheck.Retried.waited_le
    (hfailed : check.Retried failed) :
    check.start + 50 * (failed.length * (failed.length + 1)) ≤ check.nextPing failed := by
  induction failed with
  | nil => exact Nat.le_refl _
  | cons p failed ih =>
      obtain ⟨hrest, hping, -⟩ := hfailed
      have hasked := ih hrest
      have htime := le_ping hping
      have hwait : 50 * ((failed.length + 1) * (failed.length + 1 + 1))
          = 50 * (failed.length * (failed.length + 1)) + 100 * (failed.length + 1) := by
        ring
      simp only [List.length_cons, nextPing] at *
      omega

/-- The attempts of a check are few enough for a count of 32 bits, unless it may go on for more than
29 thousand million years. -/
theorem StatusCheck.Retried.attempts_lt
    (hfailed : check.Retried failed)
    (htime : check.deadline ≤ check.start + 50 * ((2 ^ 32 - 1) * 2 ^ 32)) :
    failed.length + 1 < 2 ^ 32 := by
  cases failed with
  | nil => decide
  | cons p failed =>
      by_contra hmany
      have hwaited := hfailed.waited_le
      obtain ⟨-, -, hwake⟩ := hfailed
      have hlength : 2 ^ 32 - 1 ≤ (p :: failed).length := by omega
      have hlong : (2 ^ 32 - 1) * 2 ^ 32 ≤ (p :: failed).length * ((p :: failed).length + 1) :=
        Nat.mul_le_mul hlength (by omega)
      omega

theorem StatusCheck.Retried.nextPing_le
    (hfailed : check.Retried failed) :
    check.nextPing failed ≤ max check.start check.deadline := by
  cases failed with
  | nil => exact Nat.le_max_left _ _
  | cons p failed =>
      obtain ⟨-, -, hwake⟩ := hfailed
      omega

/-- There are no more failed pings to retry than tenths of a second until the deadline. -/
theorem StatusCheck.Retried.length_le_div
    (hfailed : check.Retried failed) :
    failed.length ≤ (check.deadline - check.start) / 100 := by
  cases failed with
  | nil => exact Nat.zero_le _
  | cons p failed =>
      have hwaited := hfailed.waited_le
      have hsteps : (p :: failed).length * 2 ≤ (p :: failed).length * ((p :: failed).length + 1) :=
        Nat.mul_le_mul_left _ (by simp)
      obtain ⟨-, -, hwake⟩ := hfailed
      omega

theorem StatusCheck.exists_queried
    (check : StatusCheck ρ)
    (failed : List FailedPing)
    (time : Nat) :
    ∃ result rest ended, check.Queried failed time result rest ended := by
  rcases hquery : check.query failed time with _ | ⟨answered, e | answers⟩
  · exact ⟨_, _, _, .unanswered hquery⟩
  · exact ⟨_, _, _, .failed hquery⟩
  · by_cases hrows : (answers.head?.map fun answer => answer.rows.length) = some 1
    · obtain ⟨answer, hhead, hone⟩ := Option.map_eq_some_iff.1 hrows
      obtain ⟨rest, rfl⟩ := List.head?_eq_some_iff.1 hhead
      exact ⟨_, _, _, .healthy hquery hone⟩
    · exact ⟨_, _, _, .unexpectedRows hquery hrows⟩

/-- After the pings that failed a check ends, or retries once more. -/
theorem StatusCheck.Retried.ends_or_retried
    (hfailed : check.Retried failed) :
    (∃ result gained time, check.Ends failed result gained time) ∨
      ∃ p, check.Retried (p :: failed) := by
  rcases hping : check.ping failed with _ | ⟨time, e | ⟨⟩⟩
  · exact .inl ⟨_, _, _, .unanswered hping⟩
  · by_cases hwake : check.nextPing (⟨time, e⟩ :: failed) < check.deadline
    · exact .inr ⟨⟨time, e⟩, hfailed, hping, hwake⟩
    · exact .inl ⟨_, _, _, .unreachable hping (Nat.not_lt.1 hwake)⟩
  · obtain ⟨result, rest, ended, hqueried⟩ := check.exists_queried failed time
    exact .inl ⟨_, _, _, .queried hping hqueried⟩

/-- After pings that failed a check retries for a while and ends. -/
theorem StatusCheck.Retried.exists_ends
    (hfailed : check.Retried failed) :
    ∃ more result gained time, check.Retried (more ++ failed) ∧
      check.Ends (more ++ failed) result gained time := by
  -- the number of retries that are left
  induction hleft : (check.deadline - check.start) / 100 - failed.length generalizing failed with
  | zero =>
      rcases hfailed.ends_or_retried with ⟨result, gained, time, hends⟩ | ⟨p, hretried⟩
      · exact ⟨[], result, gained, time, hfailed, hends⟩
      · have hlength := hretried.length_le_div
        rw [List.length_cons] at hlength
        omega
  | succ left ih =>
      rcases hfailed.ends_or_retried with ⟨result, gained, time, hends⟩ | ⟨p, hretried⟩
      · exact ⟨[], result, gained, time, hfailed, hends⟩
      · obtain ⟨more, result, gained, time, hmore, hends⟩ :=
          ih hretried (by rw [List.length_cons]; omega)
        refine ⟨more ++ [p], result, gained, time, ?_, ?_⟩
        · rwa [List.append_assoc]
        · rwa [List.append_assoc]

theorem StatusCheck.Queried.ended_le
    {time ended : Nat}
    {result : Except HealthError Unit}
    {rest : List (Nat × PoolEvent)}
    (hqueried : check.Queried failed time result rest ended) :
    ended ≤ max time check.deadline := by
  cases hqueried with
  | unanswered hquery => exact Nat.le_refl _
  | failed hquery => exact PoolReply.received_le hquery
  | healthy hquery hrows => exact PoolReply.received_le hquery
  | unexpectedRows hquery hrows => exact PoolReply.received_le hquery

/-- A check ends by the deadline, or at once. -/
theorem StatusCheck.Ends.time_le
    {result : Except HealthError Unit}
    {gained : List (Nat × PoolEvent)}
    {time : Nat}
    (hfailed : check.Retried failed)
    (hends : check.Ends failed result gained time) :
    time ≤ max check.start check.deadline := by
  have hnext := hfailed.nextPing_le
  cases hends with
  | unanswered hping => omega
  | unreachable hping hwake =>
      have htime := ping_le hping
      omega
  | queried hping hqueried =>
      have htime := ping_le hping
      have hended := hqueried.ended_le
      omega

end Histories

section Running

variable {pool : AnyPool ρ} {ctx : Context} {world : World (List (Nat × PoolEvent)) S}
variable {check : StatusCheck ρ} {failed : List FailedPing}

/-- A world in which a check is about to ping again after failed pings. -/
def StatusCheck.Reaches (check : StatusCheck ρ) (failed : List FailedPing)
    (left : World (List (Nat × PoolEvent)) S) : Prop :=
  left.now = check.nextPing failed ∧ left.driver = check.log ++ check.events failed

theorem run_giveUpAt_ping
    (deadline : Nat) :
    (Work.giveUpAt deadline pool.clocked.ping).run none world
      = world.called deadline .ping
          (pool.acknowledged .ping (some deadline) (said world.driver) world.now) :=
  run_giveUpAt_exchangeStamped world deadline .ping
    (pool.plain (said world.driver) world.now .ping)

theorem run_giveUpAt_send
    (deadline : Nat)
    (statements : List Statement) :
    (Work.giveUpAt deadline (pool.clocked.send statements)).run none world
      = world.called deadline (.send statements)
          (pool.received (.send statements) (some deadline) (said world.driver) world.now) :=
  run_giveUpAt_exchangeStamped world deadline (.send statements)
    (pool.rows (said world.driver) world.now (.send statements))

/-- The reply to a ping in a world that a check reaches is the one that the check expects. -/
theorem StatusCheck.Reaches.ping_eq
    {left : World (List (Nat × PoolEvent)) S}
    (hleft : check.Reaches failed left) :
    check.pool.acknowledged .ping (some check.deadline) (said left.driver) left.now
      = check.ping failed := by
  obtain ⟨hnow, hdriver⟩ := hleft
  rw [hnow, hdriver]
  rfl

/-- The line that a failed ping leaves in the program's own log. -/
def World.notePing (world : World (List (Nat × PoolEvent)) S) (attempts : Nat) (e : DriverError) :
    World (List (Nat × PoolEvent)) S :=
  world.note "WARN"
    [("message", "health check ping failed"), ("attempt", toString attempts), ("error", e.message)]

/-- One turn of the loop. -/
theorem run_pingUntil
    (pool : AnyPool ρ)
    (world : World (List (Nat × PoolEvent)) S)
    (deadline fuel attempts : Nat)
    (last : Option DriverError) :
    let reply := pool.acknowledged .ping (some deadline) (said world.driver) world.now
    let left := (world.called deadline .ping reply).2
    (pool.clocked.pingUntil deadline (fuel + 1) attempts last).run none world
      = match reply with
        | none => (.done (.error (.timeout (attempts + 1) last)), left)
        | some (_, .ok ()) => (.done (.ok (attempts + 1, last)), left)
        | some (time, .error e) =>
            if deadline ≤ time + 100 * (attempts + 1) then
              (.done (.error (.unreachable (attempts + 1) e)), left.notePing (attempts + 1) e)
            else
              (pool.clocked.pingUntil deadline fuel (attempts + 1) (some e)).run none
                { left.notePing (attempts + 1) e with now := time + 100 * (attempts + 1) } := by
  intro reply left
  have hcalled : (Work.giveUpAt deadline pool.clocked.ping).run none world
      = world.called deadline .ping reply := run_giveUpAt_ping deadline
  rw [Driver.pingUntil, Work.run_bind, hcalled]
  dsimp only [left]
  rcases reply with _ | ⟨time, e | ⟨⟩⟩
  · rfl
  · by_cases hwake : deadline ≤ time + 100 * (attempts + 1)
    · simp [World.called, World.notePing, World.note, Driver.backoffStep, hwake]
    · have hahead : time < time + 100 * (attempts + 1) := by omega
      simp [World.called, World.notePing, World.note, Driver.backoffStep, hwake,
        run_sleepUntil_ahead, hahead]
  · rfl

/-- A ping that fails early enough is followed by a wait and by the next turn of the loop. -/
theorem run_pingUntil_retried
    {left : World (List (Nat × PoolEvent)) S}
    {p : FailedPing}
    (hleft : check.Reaches failed left)
    (hretried : check.Retried (p :: failed))
    (fuel : Nat)
    (last : Option DriverError) :
    ∃ next, check.Reaches (p :: failed) next ∧
      (check.pool.clocked.pingUntil check.deadline (fuel + 1) failed.length last).run none left
        = (check.pool.clocked.pingUntil check.deadline fuel (failed.length + 1)
            (some p.error)).run none next := by
  obtain ⟨-, hping, hwake⟩ := hretried
  have hahead : ¬ check.deadline ≤ p.time + 100 * (failed.length + 1) := Nat.not_le.2 hwake
  let missed := (left.called check.deadline .ping (check.ping failed)).2
  refine ⟨{ missed.notePing (failed.length + 1) p.error with
    now := check.nextPing (p :: failed) }, ⟨rfl, ?_⟩, ?_⟩
  · obtain ⟨hnow, hdriver⟩ := hleft
    change missed.driver = _
    simp only [missed, World.called, hping, hnow, hdriver, List.append_assoc]
    rfl
  · rw [run_pingUntil, hleft.ping_eq]
    simp only [missed, hping]
    exact if_neg hahead

/-- A check comes back to its loop after pings that it retries, whatever fuel is left by then. -/
theorem StatusCheck.Retried.run
    {world : World (List (Nat × PoolEvent)) S}
    (hworld : check.Reaches [] world)
    (hretried : check.Retried failed)
    (fuel : Nat) :
    ∃ left, check.Reaches failed left ∧
      (check.pool.clocked.pingUntil check.deadline (fuel + failed.length) 0 none).run none world
        = (check.pool.clocked.pingUntil check.deadline fuel failed.length
            (failed.head?.map FailedPing.error)).run none left := by
  induction failed generalizing fuel with
  | nil => exact ⟨world, hworld, rfl⟩
  | cons p failed ih =>
      obtain ⟨left, hleft, hrun⟩ := ih hretried.1 (fuel + 1)
      obtain ⟨next, hnext, hagain⟩ := run_pingUntil_retried hleft hretried fuel _
      refine ⟨next, hnext, ?_⟩
      have hfuel : fuel + (p :: failed).length = fuel + 1 + failed.length := by
        rw [List.length_cons]
        omega
      rw [hfuel, hrun, hagain]
      rfl

/-- How a status check goes on after its pings. -/
def querying (pool : AnyPool ρ) (deadline : Nat) :
    Except HealthError (Nat × Option DriverError) →
      Work (List (Nat × PoolEvent)) S (Except HealthError Unit)
  | .error e => return .error e
  | .ok (attempts, last) => do
      match ← Work.giveUpAt deadline (pool.clocked.send [Driver.healthQuery]) with
      | none => return .error (.timeout attempts last)
      | some (.error e) => return .error (.query e)
      | some (.ok answers) =>
          let rows := (answers.head?.map fun answer => answer.rows.length).getD 0
          if rows = 1 then return .ok () else return .error (.unexpectedRows rows)

theorem run_statusCheck
    (pool : AnyPool ρ)
    (ctx : Context)
    (world : World (List (Nat × PoolEvent)) S) :
    let deadline := (StatusCheck.of pool ctx world).deadline
    (pool.clocked.statusCheck ctx).run none world
      = Ending.andThen
          ((pool.clocked.pingUntil deadline ((deadline - world.now) / 100 + 2) 0 none).run none
            world)
          fun answer left => (querying pool deadline answer).run none left := by
  intro deadline
  have hrun : (pool.clocked.statusCheck ctx).run none world = Ending.andThen
      ((pool.clocked.pingUntil deadline ((deadline - world.now) / 100 + 2) 0 none).run none world)
        _ := rfl
  rw [hrun]
  refine congrArg (Ending.andThen _) ?_
  funext answer left
  rcases answer with e | ⟨attempts, last⟩
  · rfl
  · rfl

/-- The reply to the query in a world that a check reaches with its ping is the one that the check
expects. -/
theorem run_querying
    {left : World (List (Nat × PoolEvent)) S}
    {time : Nat}
    (hnow : left.now = time)
    (hdriver : left.driver = check.log ++ check.pinged failed time)
    (attempts : Nat)
    (last : Option DriverError) :
    (querying check.pool check.deadline (.ok (attempts, last))).run none left
      = let asked := (left.called check.deadline (.send [Driver.healthQuery])
          (check.query failed time)).2
        match check.query failed time with
        | none => (.done (.error (.timeout attempts last)), asked)
        | some (_, .error e) => (.done (.error (.query e)), asked)
        | some (_, .ok answers) =>
            if (answers.head?.map fun answer => answer.rows.length) = some 1 then
              (.done (.ok ()), asked)
            else
              (.done (.error (.unexpectedRows
                ((answers.head?.map fun answer => answer.rows.length).getD 0))), asked) := by
  have hquery : check.pool.received (.send [Driver.healthQuery]) (some check.deadline)
      (said left.driver) left.now = check.query failed time := by
    rw [hnow, hdriver]
    rfl
  rw [querying, Work.run_bind, run_giveUpAt_send, hquery]
  rcases check.query failed time with _ | ⟨answered, e | answers⟩
  · rfl
  · rfl
  · have hone : (answers.head?.map fun answer => answer.rows.length).getD 0 = 1
        ↔ (answers.head?.map fun answer => answer.rows.length) = some 1 := by
      cases answers.head?.map fun answer => answer.rows.length <;> simp
    by_cases hrows : (answers.head?.map fun answer => answer.rows.length) = some 1
    · simp [World.called, hrows]
    · have hrows' := mt hone.1 hrows
      simp [World.called, hrows, hrows']

/-- What a call under a deadline leaves in the log, and when. -/
theorem World.driver_called
    (world : World (List (Nat × PoolEvent)) S)
    (deadline : Nat)
    (call : PoolCall)
    (reply : Option (Nat × Except DriverError α)) :
    (world.called deadline call reply).2.driver = world.driver ++ (world.now, .asked call)
      :: (reply.map fun reply => (reply.1, PoolEvent.answered call (failure? reply.2))).toList := by
  cases reply <;> rfl

theorem World.now_called
    (world : World (List (Nat × PoolEvent)) S)
    (deadline : Nat)
    (call : PoolCall)
    (reply : Option (Nat × Except DriverError α)) :
    (world.called deadline call reply).2.now
      = reply.elim (max world.now deadline) Prod.fst := by
  cases reply <;> rfl

/-- A ping that succeeds ends the loop. -/
theorem run_pingUntil_pinged
    {left : World (List (Nat × PoolEvent)) S}
    {time : Nat}
    (hleft : check.Reaches failed left)
    (hping : check.ping failed = some (time, .ok ()))
    (fuel : Nat)
    (last : Option DriverError) :
    ∃ next, next.now = time ∧ next.driver = check.log ++ check.pinged failed time ∧
      (check.pool.clocked.pingUntil check.deadline (fuel + 1) failed.length last).run none left
        = (.done (.ok (failed.length + 1, last)), next) := by
  have hturn := run_pingUntil check.pool left check.deadline fuel failed.length last
  rw [hleft.ping_eq, hping] at hturn
  obtain ⟨hnow, hdriver⟩ := hleft
  refine ⟨_, rfl, ?_, hturn⟩
  rw [World.driver_called, hnow, hdriver, List.append_assoc]
  rfl

/-- A check that sends the query ends as the reply to it says. -/
theorem StatusCheck.Queried.run
    {next : World (List (Nat × PoolEvent)) S}
    {time ended : Nat}
    {result : Except HealthError Unit}
    {rest : List (Nat × PoolEvent)}
    (hnow : next.now = time)
    (hdriver : next.driver = check.log ++ check.pinged failed time)
    (hqueried : check.Queried failed time result rest ended) :
    let out := (querying check.pool check.deadline
      (.ok (failed.length + 1, failed.head?.map FailedPing.error))).run none next
    out.1 = .done result ∧
      out.2.driver = check.log ++ (check.pinged failed time
        ++ (time, .asked (.send [Driver.healthQuery])) :: rest) ∧
      out.2.now = ended := by
  intro out
  have hout := run_querying hnow hdriver (failed.length + 1) (failed.head?.map FailedPing.error)
  have hlog := World.driver_called next check.deadline (.send [Driver.healthQuery])
    (check.query failed time)
  have htime := World.now_called next check.deadline (.send [Driver.healthQuery])
    (check.query failed time)
  rw [hnow, hdriver, List.append_assoc] at hlog
  rw [hnow] at htime
  cases hqueried with
  | unanswered hquery =>
      rw [hquery] at hout hlog htime
      simp only [out, hout, true_and]
      exact ⟨hlog, htime⟩
  | failed hquery =>
      rw [hquery] at hout hlog htime
      simp only [out, hout, true_and]
      exact ⟨hlog, htime⟩
  | healthy hquery hrows =>
      rw [hquery] at hout hlog htime
      simp only [out, hout, List.head?_cons, Option.map_some, hrows, if_true, true_and]
      exact ⟨hlog, htime⟩
  | unexpectedRows hquery hrows =>
      rw [hquery] at hout hlog htime
      simp only [out, hout, if_neg hrows, true_and]
      exact ⟨hlog, htime⟩

/-- A check that comes back to its loop ends from there as its replies say. -/
theorem StatusCheck.Ends.run
    {left : World (List (Nat × PoolEvent)) S}
    {result : Except HealthError Unit}
    {gained : List (Nat × PoolEvent)}
    {time : Nat}
    (hleft : check.Reaches failed left)
    (hends : check.Ends failed result gained time)
    (fuel : Nat) :
    let out := Ending.andThen
      ((check.pool.clocked.pingUntil check.deadline (fuel + 1) failed.length
        (failed.head?.map FailedPing.error)).run none left)
      fun answer left => (querying check.pool check.deadline answer).run none left
    out.1 = .done result ∧ out.2.driver = check.log ++ gained ∧ out.2.now = time := by
  intro out
  have hturn := run_pingUntil check.pool left check.deadline fuel failed.length
    (failed.head?.map FailedPing.error)
  rw [hleft.ping_eq] at hturn
  cases hends with
  | unanswered hping =>
      obtain ⟨hnow, hdriver⟩ := hleft
      rw [hping] at hturn
      simp only [out, hturn]
      refine ⟨rfl, ?_, ?_⟩
      · change left.driver ++ [(left.now, .asked .ping)] = _
        rw [hnow, hdriver, List.append_assoc]
      · change max left.now check.deadline = _
        rw [hnow]
  | unreachable hping hwake =>
      obtain ⟨hnow, hdriver⟩ := hleft
      have hover : check.deadline ≤ time + 100 * (failed.length + 1) := hwake
      rw [hping] at hturn
      simp only [out, hturn]
      rw [if_pos hover]
      refine ⟨rfl, ?_, rfl⟩
      change left.driver ++ [(left.now, .asked .ping), _] = _
      rw [hnow, hdriver, List.append_assoc]
      rfl
  | queried hping hqueried =>
      obtain ⟨next, hnow, hdriver, hrun⟩ := run_pingUntil_pinged hleft hping fuel
        (failed.head?.map FailedPing.error)
      simp only [out, hrun, Ending.andThen_done]
      exact hqueried.run hnow hdriver

/-- A status check of any pool runs as its replies say. -/
theorem run_statusCheck_ends
    (pool : AnyPool ρ)
    (ctx : Context)
    (world : World (List (Nat × PoolEvent)) S)
    {result : Except HealthError Unit}
    {gained : List (Nat × PoolEvent)}
    {time : Nat}
    (hfailed : (StatusCheck.of pool ctx world).Retried failed)
    (hends : (StatusCheck.of pool ctx world).Ends failed result gained time) :
    let out := (pool.clocked.statusCheck ctx).run none world
    out.1 = .done result ∧ out.2.driver = world.driver ++ gained ∧ out.2.now = time := by
  let check := StatusCheck.of pool ctx world
  have hworld : check.Reaches [] world := ⟨rfl, (List.append_nil _).symm⟩
  have hfuel : (check.deadline - world.now) / 100 + 2
      = (check.deadline - world.now) / 100 + 1 - failed.length + 1 + failed.length := by
    have hlength : failed.length ≤ (check.deadline - world.now) / 100 := hfailed.length_le_div
    omega
  obtain ⟨left, hleft, hrun⟩ := hfailed.run hworld
    ((check.deadline - world.now) / 100 + 1 - failed.length + 1)
  have hended := hends.run hleft ((check.deadline - world.now) / 100 + 1 - failed.length)
  rw [run_statusCheck]
  rw [← hfuel] at hrun
  rw [← hrun] at hended
  exact hended

end Running

section Counting

variable {check : StatusCheck ρ} {failed : List FailedPing}
variable {result : Except HealthError Unit} {gained : List (Nat × PoolEvent)} {time : Nat}

theorem pingCount_append
    (log more : List (Nat × PoolEvent)) :
    pingCount (log ++ more) = pingCount log + pingCount more := by
  simp only [pingCount, said, List.map_append, List.countP_append]

theorem sendCount_append
    (log more : List (Nat × PoolEvent)) :
    sendCount (log ++ more) = sendCount log + sendCount more := by
  simp only [sendCount, said, List.map_append, List.countP_append]

theorem pingCount_events
    (failed : List FailedPing) :
    pingCount (check.events failed) = failed.length := by
  induction failed with
  | nil => rfl
  | cons p failed ih =>
      rw [StatusCheck.events, pingCount_append, ih, List.length_cons]
      rfl

theorem sendCount_events
    (failed : List FailedPing) :
    sendCount (check.events failed) = 0 := by
  induction failed with
  | nil => rfl
  | cons p failed ih =>
      rw [StatusCheck.events, sendCount_append, ih]
      rfl

/-- Failed pings ask for nothing but pings. -/
theorem call_eq_ping_of_mem_events
    {call : PoolCall}
    (hasked : (time, .asked call) ∈ check.events failed) :
    call = .ping := by
  induction failed with
  | nil => cases hasked
  | cons p failed ih =>
      rcases List.mem_append.1 hasked with hmem | hmem
      · exact ih hmem
      · simp only [List.mem_cons, Prod.mk.injEq, PoolEvent.asked.injEq, reduceCtorEq, and_false,
          List.not_mem_nil, or_false] at hmem
        exact hmem.2

theorem call_eq_ping_of_mem_pinged
    {asked : Nat}
    {call : PoolCall}
    (hasked : (asked, .asked call) ∈ check.pinged failed time) :
    call = .ping := by
  rcases List.mem_append.1 hasked with hmem | hmem
  · exact call_eq_ping_of_mem_events hmem
  · simp only [List.mem_cons, Prod.mk.injEq, PoolEvent.asked.injEq, reduceCtorEq, and_false,
      List.not_mem_nil, or_false] at hmem
    exact hmem.2

/-- After the query nothing but its answer is added to the log. -/
theorem StatusCheck.Queried.rest_eq
    {ended : Nat}
    {rest : List (Nat × PoolEvent)}
    (hqueried : check.Queried failed time result rest ended) :
    rest = [] ∨
      ∃ failure, rest = [(ended, .answered (.send [Driver.healthQuery]) failure)] := by
  cases hqueried with
  | unanswered hquery => exact .inl rfl
  | failed hquery => exact .inr ⟨_, rfl⟩
  | healthy hquery hrows => exact .inr ⟨_, rfl⟩
  | unexpectedRows hquery hrows => exact .inr ⟨_, rfl⟩

/-- A check makes one ping more than it retries. -/
theorem StatusCheck.Ends.pingCount_eq
    (hends : check.Ends failed result gained time) :
    pingCount gained = failed.length + 1 := by
  cases hends with
  | unanswered hping =>
      rw [pingCount_append, pingCount_events]
      rfl
  | unreachable hping hwake => rw [pingCount_events, List.length_cons]
  | queried hping hqueried =>
      rw [pingCount_append, StatusCheck.pinged, pingCount_append, pingCount_events]
      rcases hqueried.rest_eq with rfl | ⟨failure, rfl⟩ <;> rfl

theorem StatusCheck.Ends.sendCount_le
    (hends : check.Ends failed result gained time) :
    sendCount gained ≤ 1 := by
  cases hends with
  | unanswered hping =>
      rw [sendCount_append, sendCount_events]
      exact Nat.zero_le 1
  | unreachable hping hwake =>
      rw [sendCount_events]
      exact Nat.zero_le 1
  | queried hping hqueried =>
      rw [sendCount_append, StatusCheck.pinged, sendCount_append, sendCount_events]
      rcases hqueried.rest_eq with rfl | ⟨failure, rfl⟩ <;> exact Nat.le_refl 1

/-- After the failed pings that it retries, a check makes one more. -/
theorem StatusCheck.Ends.prefix_gained
    (hends : check.Ends failed result gained time) :
    check.events failed ++ [(check.nextPing failed, .asked .ping)] <+: gained := by
  cases hends with
  | unanswered hping => exact List.prefix_refl _
  | unreachable hping hwake =>
      exact (List.prefix_append_right_inj _).2 (List.prefix_append [_] [_])
  | queried hping hqueried =>
      rw [StatusCheck.pinged, List.append_assoc]
      exact (List.prefix_append_right_inj _).2 (List.prefix_append [_] _)

theorem events_grow
    (check : StatusCheck ρ)
    (more failed : List FailedPing) :
    check.events failed ++ [(check.nextPing failed, .asked .ping)]
      <+: check.events (more ++ failed) ++ [(check.nextPing (more ++ failed), .asked .ping)] := by
  induction more with
  | nil => exact List.prefix_refl _
  | cons p more ih =>
      refine ih.trans ?_
      rw [List.cons_append, StatusCheck.events, List.append_assoc]
      exact (List.prefix_append_right_inj _).2 (List.prefix_append [_] _)

/-- What a check asks besides pings is the query, after a ping that succeeded. -/
theorem StatusCheck.Ends.query_asked
    (hends : check.Ends failed result gained time)
    {asked : Nat}
    {call : PoolCall}
    (hasked : (asked, .asked call) ∈ gained)
    (hcall : call ≠ .ping) :
    call = .send [Driver.healthQuery] ∧ check.ping failed = some (asked, .ok ()) ∧
      check.pinged failed asked ++ [(asked, .asked call)] <+: gained := by
  cases hends with
  | unanswered hping =>
      rcases List.mem_append.1 hasked with hmem | hmem
      · exact absurd (call_eq_ping_of_mem_events hmem) hcall
      · simp [hcall] at hmem
  | unreachable hping hwake => exact absurd (call_eq_ping_of_mem_events hasked) hcall
  | queried hping hqueried =>
      rcases List.mem_append.1 hasked with hmem | hmem
      · exact absurd (call_eq_ping_of_mem_pinged hmem) hcall
      · rcases List.mem_cons.1 hmem with heq | hrest
        · obtain ⟨rfl, hevent⟩ := Prod.mk.inj heq
          obtain rfl := PoolEvent.asked.inj hevent
          exact ⟨rfl, hping, (List.prefix_append_right_inj _).2 (List.prefix_append [_] _)⟩
        · rcases hqueried.rest_eq with rfl | ⟨failure, rfl⟩ <;> simp at hrest

end Counting

section Outcome

variable {check : StatusCheck ρ} {failed : List FailedPing}
variable {result : Except HealthError Unit} {gained : List (Nat × PoolEvent)} {time : Nat}

theorem StatusCheck.Ends.of_ok
    (hends : check.Ends failed (.ok ()) gained time) :
    ∃ pinged answered answer answers, check.ping failed = some (pinged, .ok ()) ∧
      check.query failed pinged = some (answered, .ok (answer :: answers)) ∧
      answer.rows.length = 1 := by
  cases hends with
  | queried hping hqueried =>
      cases hqueried with
      | healthy hquery hrows => exact ⟨_, _, _, _, hping, hquery, hrows⟩

theorem StatusCheck.Ends.of_unreachable
    {k : Nat}
    {e : DriverError}
    (hends : check.Ends failed (.error (.unreachable k e)) gained time) :
    check.ping failed = some (time, .error e) ∧
      check.deadline ≤ time + 100 * (failed.length + 1) ∧ k = failed.length + 1 := by
  cases hends with
  | unreachable hping hwake => exact ⟨hping, hwake, rfl⟩
  | queried hping hqueried => cases hqueried

theorem StatusCheck.Ends.of_timeout
    {k : Nat}
    {last : Option DriverError}
    (hends : check.Ends failed (.error (.timeout k last)) gained time) :
    (check.ping failed = none ∨ ∃ pinged, check.ping failed = some (pinged, .ok ()) ∧
      check.query failed pinged = none) ∧
      k = failed.length + 1 ∧ last = failed.head?.map FailedPing.error := by
  cases hends with
  | unanswered hping => exact ⟨.inl hping, rfl, rfl⟩
  | queried hping hqueried =>
      cases hqueried with
      | unanswered hquery => exact ⟨.inr ⟨_, hping, hquery⟩, rfl, rfl⟩

/-- A check has one way to end. -/
theorem StatusCheck.Ends.unique
    {failed' : List FailedPing}
    {result' : Except HealthError Unit}
    {gained' : List (Nat × PoolEvent)}
    {time' : Nat}
    (hfailed : check.Retried failed)
    (hends : check.Ends failed result gained time)
    (hfailed' : check.Retried failed')
    (hends' : check.Ends failed' result' gained' time') :
    result' = result ∧ gained' = gained := by
  -- both are what the check runs to from some world
  let world : World (List (Nat × PoolEvent)) Unit := ⟨check.start, [], [], [], check.log, ()⟩
  obtain ⟨hresult, hlog, -⟩ :=
    run_statusCheck_ends check.pool ⟨none, some check.deadline⟩ world hfailed hends
  obtain ⟨hresult', hlog', -⟩ :=
    run_statusCheck_ends check.pool ⟨none, some check.deadline⟩ world hfailed' hends'
  rw [hresult] at hresult'
  rw [hlog] at hlog'
  exact ⟨(Ending.done.inj hresult').symm, (List.append_cancel_left hlog').symm⟩

/-- A failed ping is followed by a wait and a ping exactly if the wait ends before the deadline. -/
theorem StatusCheck.Ends.waits
    (hfailed : check.Retried failed)
    (hends : check.Ends failed result gained time)
    {before : List FailedPing}
    {p : FailedPing}
    (hbefore : check.Retried before)
    (hping : check.ping before = some (p.time, .error p.error)) :
    let wake := p.time + 100 * (before.length + 1)
    (check.events (p :: before) ++ [(wake, .asked .ping)] <+: gained ↔ wake < check.deadline) ∧
      (check.deadline ≤ wake → gained = check.events (p :: before)) := by
  intro wake
  have hlast : check.deadline ≤ wake → gained = check.events (p :: before) := fun hwake =>
    (StatusCheck.Ends.unique hbefore (.unreachable hping hwake) hfailed hends).2
  refine ⟨⟨fun hprefix => ?_, fun hwake => ?_⟩, hlast⟩
  · by_contra hover
    have hlength := hprefix.length_le
    rw [hlast (Nat.not_lt.1 hover), List.length_append, List.length_singleton] at hlength
    omega
  · have hretried : check.Retried (p :: before) := ⟨hbefore, hping, hwake⟩
    obtain ⟨more, result', gained', time', hmore, hends'⟩ := hretried.exists_ends
    obtain ⟨-, rfl⟩ := StatusCheck.Ends.unique hfailed hends hmore hends'
    exact (events_grow check more (p :: before)).trans hends'.prefix_gained

/-- What a check asks a database that answers pings: one text without values, for its rows. -/
theorem healthQuery_eq :
    Driver.healthQuery = ⟨⟨"SELECT TRUE", [], 0⟩, .query⟩ :=
  rfl

/-- A status check of any pool ends by its deadline `D`, or at once, after finitely many pings. A
ping that fails is followed by a wait of a tenth of a second for each ping so far, exactly if that
wait ends before `D`; otherwise it was the last thing that the check did. The attempts that an error
reports are the pings that were made. The query is sent at most once, right after a ping that
succeeded in time. The check succeeds exactly if the query is answered in time with one row. It
finds the database unreachable exactly if the wait after a failed ping would reach `D`. It times out
exactly if a ping or the query is not answered in time, with the error of the latest failed ping. -/
theorem status_check_ends_by_its_deadline
    (pool : AnyPool ρ)
    (ctx : Context)
    (world : World (List (Nat × PoolEvent)) S) :
    let check := StatusCheck.of pool ctx world
    let out := (pool.clocked.statusCheck ctx).run none world
    ∃ result gained,
      out.1 = .done result ∧ out.2.driver = world.driver ++ gained ∧
      out.2.now ≤ max world.now check.deadline ∧
      [(world.now, .asked .ping)] <+: gained ∧
      (∀ failed p, check.Retried failed → check.ping failed = some (p.time, .error p.error) →
        let wake := p.time + 100 * (failed.length + 1)
        (check.events (p :: failed) ++ [(wake, .asked .ping)] <+: gained ↔ wake < check.deadline) ∧
          (check.deadline ≤ wake → gained = check.events (p :: failed))) ∧
      (∀ k e, result = .error (.unreachable k e) → k = pingCount gained) ∧
      (∀ k last, result = .error (.timeout k last) → k = pingCount gained) ∧
      sendCount gained ≤ 1 ∧
      (∀ time call, (time, .asked call) ∈ gained → call ≠ .ping →
        call = .send [Driver.healthQuery] ∧ ∃ failed, check.Retried failed ∧
          check.ping failed = some (time, .ok ()) ∧
          check.pinged failed time ++ [(time, .asked call)] <+: gained) ∧
      (result = .ok () ↔ ∃ failed time answered answer answers, check.Retried failed ∧
        check.ping failed = some (time, .ok ()) ∧
        check.query failed time = some (answered, .ok (answer :: answers)) ∧
        answer.rows.length = 1) ∧
      (∀ k e, result = .error (.unreachable k e) ↔ ∃ failed time, check.Retried failed ∧
        check.ping failed = some (time, .error e) ∧
        check.deadline ≤ time + 100 * (failed.length + 1) ∧ k = failed.length + 1) ∧
      ∀ k last, result = .error (.timeout k last) ↔ ∃ failed, check.Retried failed ∧
        (check.ping failed = none ∨ ∃ time, check.ping failed = some (time, .ok ()) ∧
          check.query failed time = none) ∧
        k = failed.length + 1 ∧ last = failed.head?.map FailedPing.error := by
  intro check out
  obtain ⟨failed, result, gained, time, hfailed, hends⟩ :
      ∃ failed result gained time, check.Retried failed ∧ check.Ends failed result gained time := by
    have hstart : check.Retried [] := trivial
    obtain ⟨more, result, gained, time, hretried, hends⟩ := hstart.exists_ends
    exact ⟨_, result, gained, time, hretried, hends⟩
  obtain ⟨hdone, hlog, hnow⟩ := run_statusCheck_ends pool ctx world hfailed hends
  have hresult : ∀ {failed' result' gained' time'}, check.Retried failed' →
      check.Ends failed' result' gained' time' → result = result' := fun hfailed' hends' =>
    (StatusCheck.Ends.unique hfailed' hends' hfailed hends).1
  refine ⟨result, gained, hdone, hlog, hnow ▸ hends.time_le hfailed, ?_, ?_, ?_, ?_, ?_, ?_, ?_, ?_,
    ?_⟩
  · have hfirst := events_grow check failed []
    rw [List.append_nil] at hfirst
    exact hfirst.trans hends.prefix_gained
  · exact fun before p hbefore hping => hends.waits hfailed hbefore hping
  · rintro k e rfl
    rw [hends.pingCount_eq, hends.of_unreachable.2.2]
  · rintro k last rfl
    rw [hends.pingCount_eq, hends.of_timeout.2.1]
  · exact hends.sendCount_le
  · intro asked call hasked hcall
    obtain ⟨hquery, hping, hprefix⟩ := hends.query_asked hasked hcall
    exact ⟨hquery, failed, hfailed, hping, hprefix⟩
  · constructor
    · rintro rfl
      obtain ⟨pinged, answered, answer, answers, hanswer⟩ := hends.of_ok
      exact ⟨failed, pinged, answered, answer, answers, hfailed, hanswer⟩
    · rintro ⟨failed', pinged, answered, answer, answers, hfailed', hping, hquery, hrows⟩
      exact hresult hfailed' (.queried hping (.healthy hquery hrows))
  · intro k e
    constructor
    · rintro rfl
      exact ⟨failed, time, hfailed, hends.of_unreachable⟩
    · rintro ⟨failed', pinged, hfailed', hping, hwake, rfl⟩
      exact hresult hfailed' (.unreachable hping hwake)
  · intro k last
    constructor
    · rintro rfl
      exact ⟨failed, hfailed, hends.of_timeout⟩
    · rintro ⟨failed', hfailed', hping | ⟨pinged, hping, hquery⟩, rfl, rfl⟩
      · exact hresult hfailed' (.unanswered hping)
      · exact hresult hfailed' (.queried hping (.unanswered hquery))

/-- A database that is starting up: it refuses three pings, and answers the query with a row. -/
def startingUp : AnyPool Unit where
  plain log _ _ :=
    if log.countP PoolEvent.isPing < 3 then .after 0 (.error (.connection "starting up"))
    else .after 0 (.ok ())
  rows _ _ _ := .after 0 (.ok [.ofRows [()]])

example :
    let world : World (List (Nat × PoolEvent)) Unit := ⟨0, [], [], [], [], ()⟩
    let out := (startingUp.clocked.statusCheck .empty).run none world
    out.1 = .done (.ok ()) ∧ out.2.now = 600 ∧ pingCount out.2.driver = 4 :=
  ⟨rfl, rfl, rfl⟩

end Outcome

end QueryBatch
