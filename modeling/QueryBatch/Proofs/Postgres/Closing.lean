import QueryBatch.Proofs.Postgres.Custody

/-!
# Closing a pool is final

A pool may be closed while calls wait for permits, open connections or use them, and while
transactions are in progress. `Usage.Kept` is what every step keeps: each open connection has a user
(`Custody`), each suspended call keeps it so, and a call that is refused a permit fails at once
(`Task.Yields`). Once the pool is closed nothing is idle, so connections have no user left but calls
and transactions: what is given back is let go.
-/

namespace QueryBatch
namespace Postgres

variable {α : Type}

section Defs

/-- The answer to a call that is refused a permit. -/
def poolClosed : DriverError := .connection "connection pool is closed"

/-- In a closed pool, a call that waits for a permit fails as soon as it goes on, and changes
nothing. -/
def Suspension.Refused (rest : Suspension (Except DriverError Live)) : Prop :=
  rest.wait = .permit → ∀ refusal world, world.driver.pool.closed = true →
    rest.resume refusal world = some (.done (.error poolClosed), world)

/-- Wherever a call waits for a permit, it fails in a closed pool. -/
def Task.Yields : Task Wire Unit (Except DriverError Live) → Prop
  | .done _ => True
  | .act next _ => ∀ world, (next world).Yields
  | .wait w next dropped =>
      (⟨w, next, dropped⟩ : Suspension (Except DriverError Live)).Refused ∧
        ∀ answer, (next answer).Yields

/-- A suspended call fails in a closed pool if it waits for a permit now or later. -/
def Suspension.Yields (rest : Suspension (Except DriverError Live)) : Prop :=
  rest.Refused ∧ ∀ refusal world task left, rest.resume refusal world = some (task, left) →
    task.Yields

/-- A suspended call keeps account of the connections, whenever it goes on. -/
def Suspension.Keeps (charge : Charge α) (rest : Suspension α) : Prop :=
  ∀ shut later others, Custody shut later.driver (charge.during ++ others) →
    Custody shut (rest.dropped later).driver (charge.dropped ++ others) ∧
      ∀ refusal task left, rest.resume refusal later = some (task, left) →
        task.Keeps charge shut left others

/-- The charge of a call that was handed a connection for an errand. -/
def Errand.charge (errand : Errand) (live : Live) : Charge (Except DriverError (Option Nat)) where
  during := [.connection live]
  dropped := []
  returned answer :=
    match errand, answer with
    | .batch _, _ => []
    | _, .error _ => []
    | _, .ok none => []
    | _, .ok (some tx) => [.transaction tx]

/-- What a suspended call has in hand. -/
def Job.hands : Job → List Grip
  | .asking _ _ => []
  | .handed _ live _ => [.connection live]
  | .filling _ => []
  | .sending tx _ => [.transaction tx]
  | .finishing tx _ _ => [.transaction tx]

/-- What a suspended call keeps. -/
def Job.Keeps : Job → Prop
  | .asking _ rest => rest.Keeps obtaining ∧ rest.Yields
  | .handed errand live rest => rest.Keeps (errand.charge live)
  | .filling rest => rest.Keeps (passing [])
  | .sending tx rest => rest.Keeps (staying [.transaction tx])
  | .finishing tx _ rest => rest.Keeps (passing [.transaction tx])

namespace Usage

/-- What all callers and all suspended calls have in hand. -/
def hands (usage : Usage) : List Grip :=
  usage.lent.map Grip.transaction ++ usage.jobs.flatMap Job.hands

/-- A connection is in the hands of a call, or of a transaction that is in somebody's hands. -/
def InHands (usage : Usage) (connection : Nat) : Prop :=
  ∃ live, live.connection = connection ∧
    (.connection live ∈ usage.hands ∨
      ∃ tx, (tx, live) ∈ usage.world.driver.held ∧ .transaction tx ∈ usage.hands)

/-- Every connection of a pool in use has a user, and will. -/
structure Kept (shut : Option Nat) (usage : Usage) : Prop where
  custody : Custody shut usage.world.driver usage.hands
  jobs : ∀ job ∈ usage.jobs, job.Keeps

end Usage
end Defs

section Yields

theorem yields_step_bind
    {f : World (State Wire) Unit → α × World (State Wire) Unit}
    {next : α → Task Wire Unit (Except DriverError Live)} :
    (Task.step f >>= next).Yields ↔ ∀ world, (next (f world).1).Yields :=
  Iff.rfl

theorem yields_acquire : (Network.acquire Wire.network).Yields := by
  refine fun _ => ⟨fun _ refusal world hclosed => ?_, fun granted => ?_⟩
  · simp only [Suspension.resume, Wait.resolve, Pool.requestPermit, hclosed, if_true,
      Option.map_some]
    rfl
  · cases granted with
    | error e => trivial
    | ok _ =>
      refine yields_step_bind.2 fun world => ?_
      generalize (world.driver.pool.takeIdle world.now
        (Wire.network.isOpen world.driver.network)) = taken
      rcases taken with ⟨_ | live, pool, dropped⟩
      · refine ⟨?_, fun result => ?_⟩
        · intro hpermit
          cases hpermit
        · cases result with
          | error fault => exact fun _ => trivial
          | ok connection => exact fun _ _ => trivial
      · trivial

theorem yields_advance
    {task : Task Wire Unit (Except DriverError Live)}
    {world left : World (State Wire) Unit}
    {rest : Suspension (Except DriverError Live)}
    (hyields : task.Yields)
    (hadvance : task.advance world = (.inr rest, left)) :
    rest.Yields := by
  induction task generalizing world with
  | done a => simp [Task.advance] at hadvance
  | act next change ih => exact ih world (hyields world) hadvance
  | wait w next dropped ih =>
    simp only [Task.advance, Prod.mk.injEq, Sum.inr.injEq] at hadvance
    obtain ⟨rfl, rfl⟩ := hadvance
    refine ⟨hyields.1, fun refusal world task left hresume => ?_⟩
    simp only [Suspension.resume, Option.map_eq_some_iff, Prod.mk.injEq] at hresume
    obtain ⟨⟨answer, later⟩, -, rfl, rfl⟩ := hresume
    exact hyields.2 answer

end Yields

section Steps

variable {shut : Option Nat} {usage later : Usage} {index : Nat} {live : Live}

/-- A call that runs until it waits or returns has kept account of the connections until then. -/
theorem keeps_advance
    {charge : Charge α}
    {task : Task Wire Unit α}
    {world : World (State Wire) Unit}
    {others : List Grip}
    (hkeeps : task.Keeps charge shut world others) :
    match task.advance world with
    | (.inl a, left) => Custody shut left.driver (charge.returned a ++ others)
    | (.inr rest, left) =>
        Custody shut left.driver (charge.during ++ others) ∧ rest.Keeps charge := by
  induction task generalizing world with
  | done a => exact hkeeps
  | act next change ih => exact ih world hkeeps
  | wait w next dropped ih =>
    obtain ⟨hcustody, hlater⟩ := hkeeps
    refine ⟨hcustody, fun shut later others hcustody => ?_⟩
    obtain ⟨hdropped, hnext⟩ := hlater shut later others hcustody
    refine ⟨hdropped, fun refusal task left hresume => ?_⟩
    simp only [Suspension.resume, Option.map_eq_some_iff, Prod.mk.injEq] at hresume
    obtain ⟨⟨answer, world⟩, hanswer, rfl, rfl⟩ := hresume
    exact hnext refusal answer world hanswer

namespace Usage

/-- Connections keep their users when a call runs until it waits or returns. -/
theorem kept_proceed
    {charge : Charge α}
    {task : Task Wire Unit α}
    {stop : Suspension α → Job}
    {done : α → Usage → Usage}
    (hkeeps : task.Keeps charge shut usage.world usage.hands)
    (hjobs : ∀ job ∈ usage.jobs, job.Keeps)
    (hstop : ∀ rest left, task.advance usage.world = (.inr rest, left) → rest.Keeps charge →
      (stop rest).Keeps ∧ (stop rest).hands = charge.during)
    (hdone : ∀ a left, Custody shut left.driver (charge.returned a ++ usage.hands) →
      (done a { usage with world := left }).Kept shut) :
    (usage.proceed task stop done).Kept shut := by
  have hadvance := keeps_advance hkeeps
  unfold proceed
  rcases hrun : task.advance usage.world with ⟨a | rest, left⟩
  · rw [hrun] at hadvance
    exact hdone a left hadvance
  · rw [hrun] at hadvance
    obtain ⟨hcustody, hrest⟩ := hadvance
    obtain ⟨hjob, hhands⟩ := hstop rest left hrun hrest
    refine ⟨hcustody.congr_hands fun grip => ?_, List.forall_mem_cons.2 ⟨hjob, hjobs⟩⟩
    rw [hands, hands, List.flatMap_cons, hhands]
    simp only [List.mem_append]
    tauto

theorem keeps_use
    {world : World (State Wire) Unit}
    {others : List Grip}
    (errand : Errand)
    (hcustody : Custody shut world.driver (.connection live :: others)) :
    (errand.use live).Keeps (errand.charge live) shut world others := by
  cases errand with
  | begin =>
    refine Task.Keeps.bind (keeps_beginOn hcustody) ?_
    rintro (e | tx) shut left others hcustody
    · exact hcustody
    · exact hcustody
  | script text =>
    refine Task.Keeps.bind (keeps_scriptOn text hcustody) ?_
    rintro (e | _) shut left others hcustody
    · exact hcustody
    · exact hcustody
  | batch statements =>
    exact Task.Keeps.bind (keeps_batchOn statements hcustody) fun _ _ _ _ hcustody => hcustody

theorem kept_hand
    {errand : Errand}
    {task : Task Wire Unit (Except DriverError (Option Nat))}
    (hkeeps : task.Keeps (errand.charge live) shut usage.world usage.hands)
    (hjobs : ∀ job ∈ usage.jobs, job.Keeps) :
    (usage.hand errand live task).Kept shut := by
  refine kept_proceed hkeeps hjobs (fun rest left _ hrest => ⟨hrest, rfl⟩) ?_
  intro answer left hcustody
  rcases errand with _ | text | statements <;> rcases answer with e | _ | tx <;>
    exact ⟨hcustody, hjobs⟩

theorem kept_ask
    {errand : Errand}
    {task : Task Wire Unit (Except DriverError Live)}
    (hkeeps : task.Keeps obtaining shut usage.world usage.hands)
    (hyields : task.Yields)
    (hjobs : ∀ job ∈ usage.jobs, job.Keeps) :
    (usage.ask errand task).Kept shut := by
  refine kept_proceed hkeeps hjobs
    (fun rest left hrun hrest => ⟨⟨hrest, yields_advance hyields hrun⟩, rfl⟩) ?_
  rintro (e | live) left hcustody
  · exact ⟨hcustody, hjobs⟩
  · exact kept_hand (keeps_use errand hcustody) hjobs

theorem kept_fill
    {task : Task Wire Unit (Except DriverError Unit)}
    (hkeeps : task.Keeps (passing []) shut usage.world usage.hands)
    (hjobs : ∀ job ∈ usage.jobs, job.Keeps) :
    (usage.fill task).Kept shut :=
  kept_proceed hkeeps hjobs (fun _ _ _ hrest => ⟨hrest, rfl⟩) fun _ _ hcustody =>
    ⟨hcustody, hjobs⟩

theorem kept_send
    {tx : Nat}
    {task : Task Wire Unit (Answers Row)}
    (hkeeps : task.Keeps (staying [.transaction tx]) shut usage.world usage.hands)
    (hjobs : ∀ job ∈ usage.jobs, job.Keeps) :
    (usage.send tx task).Kept shut :=
  kept_proceed hkeeps hjobs (fun _ _ _ hrest => ⟨hrest, rfl⟩) fun _ _ hcustody =>
    ⟨hcustody, hjobs⟩

theorem kept_finish
    {tx : Nat}
    {task : Task Wire Unit (Except DriverError Unit)}
    (hkeeps : task.Keeps (passing [.transaction tx]) shut usage.world usage.hands)
    (hjobs : ∀ job ∈ usage.jobs, job.Keeps) :
    (usage.finish tx live task).Kept shut := by
  refine kept_proceed hkeeps hjobs (fun _ _ _ hrest => ⟨hrest, rfl⟩) ?_
  rintro (e | _) left hcustody
  · exact ⟨hcustody, hjobs⟩
  · exact ⟨hcustody, hjobs⟩

/-- One of the suspended calls, apart from the others. -/
theorem Kept.takeJob
    {job : Job}
    (hkept : usage.Kept shut)
    (hjob : usage.jobs[index]? = some job) :
    job.Keeps ∧
      Custody shut usage.world.driver
        (job.hands ++ { usage with jobs := usage.jobs.eraseIdx index }.hands) ∧
      ∀ other ∈ usage.jobs.eraseIdx index, other.Keeps := by
  obtain ⟨hindex, rfl⟩ := List.getElem?_eq_some_iff.mp hjob
  have hperm := List.getElem_cons_eraseIdx_perm hindex
  refine ⟨hkept.jobs _ (List.getElem_mem hindex), ?_, fun other hother => ?_⟩
  · have hhands := hperm.flatMap_right Job.hands
    refine hkept.custody.congr_hands fun grip => ?_
    simp only [hands, ← hhands.mem_iff, List.flatMap_cons, List.mem_append]
    tauto
  · exact hkept.jobs other (List.mem_of_mem_eraseIdx hother)

/-- A call that goes on keeps account of the connections. -/
theorem kept_resume
    {job : Job}
    {refusal : Option Fault}
    (hjob : job.Keeps)
    (hcustody : Custody shut usage.world.driver (job.hands ++ usage.hands))
    (hjobs : ∀ job ∈ usage.jobs, job.Keeps)
    (hresume : usage.resume refusal job = some later) :
    later.Kept shut := by
  cases job with
  | asking errand rest =>
    simp only [resume, Option.map_eq_some_iff] at hresume
    obtain ⟨⟨task, left⟩, hready, rfl⟩ := hresume
    obtain ⟨hkeeps, -, hyields⟩ := hjob
    have htask := (hkeeps _ _ _ hcustody).2 refusal task left hready
    exact kept_ask htask (hyields _ _ _ _ hready) hjobs
  | handed errand live rest =>
    simp only [resume, Option.map_eq_some_iff] at hresume
    obtain ⟨⟨task, left⟩, hready, rfl⟩ := hresume
    exact kept_hand ((hjob _ _ _ hcustody).2 refusal task left hready) hjobs
  | filling rest =>
    simp only [resume, Option.map_eq_some_iff] at hresume
    obtain ⟨⟨task, left⟩, hready, rfl⟩ := hresume
    exact kept_fill ((hjob _ _ _ hcustody).2 refusal task left hready) hjobs
  | sending tx rest =>
    simp only [resume, Option.map_eq_some_iff] at hresume
    obtain ⟨⟨task, left⟩, hready, rfl⟩ := hresume
    exact kept_send ((hjob _ _ _ hcustody).2 refusal task left hready) hjobs
  | finishing tx live rest =>
    simp only [resume, Option.map_eq_some_iff] at hresume
    obtain ⟨⟨task, left⟩, hready, rfl⟩ := hresume
    exact kept_finish ((hjob _ _ _ hcustody).2 refusal task left hready) hjobs

/-- A call that is dropped gives away what it has in hand. -/
theorem kept_drop
    {job : Job}
    (hjob : job.Keeps)
    (hcustody : Custody shut usage.world.driver (job.hands ++ usage.hands))
    (hjobs : ∀ job ∈ usage.jobs, job.Keeps) :
    (usage.drop job).Kept shut := by
  cases job with
  | asking errand rest => exact ⟨(hjob.1 _ _ _ hcustody).1, hjobs⟩
  | handed errand live rest => exact ⟨(hjob _ _ _ hcustody).1, hjobs⟩
  | filling rest => exact ⟨(hjob _ _ _ hcustody).1, hjobs⟩
  | sending tx rest => exact ⟨(hjob _ _ _ hcustody).1, hjobs⟩
  | finishing tx live rest => exact ⟨(hjob _ _ _ hcustody).1, hjobs⟩

theorem Kept.borrow
    {tx : Nat}
    (hkept : usage.Kept shut)
    (hborrow : usage.borrow index = some (tx, live, later)) :
    Custody shut later.world.driver (.transaction tx :: later.hands) ∧
      ∀ job ∈ later.jobs, job.Keeps := by
  unfold Usage.borrow at hborrow
  cases hlent : usage.lent[index]? with
  | none => simp [hlent] at hborrow
  | some first =>
    simp only [hlent, Option.map_eq_some_iff, Prod.mk.injEq] at hborrow
    obtain ⟨found, -, rfl, -, rfl⟩ := hborrow
    obtain ⟨hindex, rfl⟩ := List.getElem?_eq_some_iff.mp hlent
    have hperm := (List.getElem_cons_eraseIdx_perm hindex).map Grip.transaction
    refine ⟨hkept.custody.congr_hands fun grip => ?_, hkept.jobs⟩
    simp only [hands, List.mem_append, ← hperm.mem_iff, List.map_cons, List.mem_cons]
    tauto

/-- Whatever happens to a pool in use, every open connection keeps a user. -/
theorem Kept.next
    {action : Action}
    (hkept : usage.Kept shut)
    (hnext : usage.next action = some later) :
    later.Kept shut := by
  cases Usage.steps_of_next hnext with
  | calls errand =>
    exact kept_ask (keeps_acquire hkept.custody) yields_acquire hkept.jobs
  | fills =>
    exact kept_fill (keeps_look_bind.2 (keeps_openIdle _ hkept.custody)) hkept.jobs
  | sends hborrow statements =>
    obtain ⟨hcustody, hjobs⟩ := hkept.borrow hborrow
    exact kept_send (keeps_sendIn _ statements hcustody) hjobs
  | commits hborrow =>
    obtain ⟨hcustody, hjobs⟩ := hkept.borrow hborrow
    exact kept_finish (keeps_finish "COMMIT" _ hcustody) hjobs
  | rollsBack hborrow =>
    obtain ⟨hcustody, hjobs⟩ := hkept.borrow hborrow
    exact kept_finish (keeps_finish "ROLLBACK" _ hcustody) hjobs
  | letsGo hborrow =>
    obtain ⟨hcustody, hjobs⟩ := hkept.borrow hborrow
    exact ⟨hcustody.endTx false, hjobs⟩
  | polls hjob hresume =>
    obtain ⟨hkeeps, hcustody, hjobs⟩ := hkept.takeJob hjob
    exact kept_resume hkeeps hcustody hjobs hresume
  | drops hjob =>
    obtain ⟨hkeeps, hcustody, hjobs⟩ := hkept.takeJob hjob
    exact kept_drop hkeeps hcustody hjobs
  | moves connection move =>
    exact ⟨hkept.custody.drift ⟨rfl, rfl⟩ rfl rfl (.move _ _), hkept.jobs⟩
  | passes ms => exact ⟨hkept.custody, hkept.jobs⟩
  | closes =>
    have hbefore before hmem := (hkept.custody.closed before hmem).2
    exact ⟨hkept.custody.close hbefore, hkept.jobs⟩

theorem Kept.after
    {actions : List Action}
    (hkept : usage.Kept shut)
    (hafter : usage.after actions = some later) :
    later.Kept shut := by
  induction actions generalizing usage with
  | nil =>
    obtain rfl := Option.some.inj hafter
    exact hkept
  | cons action rest ih =>
    unfold Usage.after at hafter
    cases hnext : usage.next action with
    | none => simp [hnext] at hafter
    | some between =>
      simp only [hnext] at hafter
      exact ih (hkept.next hnext) hafter

theorem kept_start
    (options : PoolOptions)
    (future : List Turn) :
    (start options future).Kept none where
  custody := by
    refine ⟨by simp, fun _ => rfl, ?_, ?_, ?_, List.nodup_nil, ?_⟩
    · exact fun _ hlt => absurd hlt (Nat.not_lt_zero _)
    · intro live hlive
      simp [users, start, State.start, Pool.new, hands] at hlive
    · exact fun _ hmem => absurd hmem List.not_mem_nil
    · exact fun _ hmem => absurd hmem List.not_mem_nil
  jobs _ hmem := absurd hmem List.not_mem_nil

end Usage
end Steps

section Result

variable {options : PoolOptions} {future : List Turn} {before actions : List Action}
variable {usage later : Usage} {shut : Option Nat}

namespace Usage

theorem InHands.mem_users
    {connection : Nat}
    (hhands : usage.InHands connection) :
    ∃ live ∈ users usage.world.driver usage.hands, live.connection = connection := by
  obtain ⟨live, hconnection, hlive | ⟨tx, hheld, -⟩⟩ := hhands
  · exact ⟨live, Postgres.mem_users.2 (.inr (.inr hlive)), hconnection⟩
  · exact ⟨live, Postgres.mem_users.2 (.inr (.inl (List.mem_map_of_mem hheld))), hconnection⟩

/-- With no connection idle, all users have theirs in hand. -/
theorem Kept.inHands
    {live : Live}
    (hkept : usage.Kept shut)
    (hidle : usage.world.driver.pool.idle = [])
    (hlive : live ∈ users usage.world.driver usage.hands) :
    usage.InHands live.connection := by
  rw [Postgres.mem_users, hidle] at hlive
  obtain hnone | hheld | hhands := hlive
  · cases hnone
  · obtain ⟨⟨tx, live⟩, hentry, rfl⟩ := List.mem_map.1 hheld
    exact ⟨live, rfl, .inr ⟨tx, hentry, hkept.custody.owned _ hentry⟩⟩
  · exact ⟨live, rfl, .inl hhands⟩

/-- A call that waits for a permit of a closed pool fails and is gone. -/
theorem next_poll_refused
    {index : Nat}
    {errand : Errand}
    {rest : Suspension (Except DriverError Live)}
    (hkept : usage.Kept shut)
    (hclosed : usage.world.driver.pool.closed = true)
    (hjob : usage.jobs[index]? = some (.asking errand rest))
    (hpermit : rest.wait = .permit)
    (refusal : Option Fault) :
    rest.resume refusal usage.world = some (.done (.error poolClosed), usage.world) ∧
      usage.next (.poll index refusal)
        = some { usage with jobs := usage.jobs.eraseIdx index } := by
  have hrefused := (hkept.jobs _ (List.mem_of_getElem? hjob)).2.1 hpermit refusal _ hclosed
  refine ⟨hrefused, ?_⟩
  simp only [next, hjob, resume, hrefused, Option.map_some]
  rfl

/-- A new call waits for a permit, and opens nothing until it has one. -/
theorem next_call
    (usage : Usage)
    (errand : Errand) :
    ∃ rest world, usage.next (.call errand)
        = some { usage with world := world, jobs := .asking errand rest :: usage.jobs } ∧
      rest.wait = .permit ∧ world.driver.network.opened = usage.world.driver.network.opened :=
  ⟨_, Wire.network.settled usage.world, rfl, rfl, (Passes.settled usage.world).wire.opened⟩

end Usage

/-- Closing a pool is final. Whatever happens to it before and afterwards, it stays closed and no
connection is idle. A call that waits for a permit fails as soon as it goes on and opens no
connection, and so does every new call, for it begins with this wait. A connection that a call or a
transaction had when the pool was closed, and one that was opened later, is still in such hands or
has been let go. -/
theorem closing_is_final
    (hbefore : (Usage.start options future).after before = some usage)
    (hlater : usage.after (.close :: actions) = some later) :
    later.world.driver.pool.closed = true ∧ later.world.driver.pool.idle = [] ∧
      (∀ index errand rest, later.jobs[index]? = some (.asking errand rest) →
        rest.wait = .permit → ∀ refusal,
          rest.resume refusal later.world
              = some (.done (.error (.connection "connection pool is closed")), later.world) ∧
            later.next (.poll index refusal)
              = some { later with jobs := later.jobs.eraseIdx index }) ∧
      (∀ errand, ∃ rest world,
        later.next (.call errand)
            = some { later with world := world, jobs := .asking errand rest :: later.jobs } ∧
          rest.wait = .permit ∧
          world.driver.network.opened = later.world.driver.network.opened) ∧
      ∀ connection,
        usage.InHands connection ∨ connection < later.world.driver.network.opened →
          later.InHands connection ∨ (later.world.driver.network.line connection).up = false := by
  have hkept : usage.Kept none := (Usage.kept_start options future).after hbefore
  have hshut : { usage with world := Wire.network.closed usage.world }.Kept
      (some usage.world.driver.network.opened) :=
    ⟨hkept.custody.close fun opened hopened => (Option.some.inj hopened).ge, hkept.jobs⟩
  have hlast : later.Kept (some usage.world.driver.network.opened) := hshut.after hlater
  obtain ⟨hclosed, hopened⟩ := hlast.custody.closed _ rfl
  have hidle : later.world.driver.pool.idle = [] := hlast.custody.empty hclosed
  refine ⟨hclosed, hidle, fun index errand rest hjob hpermit refusal =>
    Usage.next_poll_refused hlast hclosed hjob hpermit refusal, later.next_call, ?_⟩
  intro connection hconnection
  have hlt : connection < later.world.driver.network.opened := by
    rcases hconnection with hhands | hlt
    · obtain ⟨live, hlive, rfl⟩ := hhands.mem_users
      exact (hkept.custody.opened live hlive).trans_le hopened
    · exact hlt
  cases hup : (later.world.driver.network.line connection).up with
  | false => exact .inr rfl
  | true =>
    obtain ⟨live, hlive, rfl⟩ := hlast.custody.used connection hlt hup
    exact .inl (hlast.inHands hidle hlive)

/-- A pool of two connections has one in a transaction and opens the other for a script; a third
call waits for a permit. -/
def lastHour : List Action :=
  [.call .begin, .poll 0 none, .poll 0 none, .move 0 (.run (.accepted {})), .move 0 .tell,
    .poll 0 none, .call (.script "VACUUM"), .poll 0 none, .call .begin]

/-- The third call is refused; the script runs and the transaction is committed, both to the end. -/
def cleanUp : List Action :=
  [.poll 0 none, .poll 0 none, .move 1 (.run (.accepted {})), .move 1 .tell, .poll 0 none,
    .commit 0, .move 0 (.run (.accepted {})), .move 0 .tell, .poll 0 none]

theorem closing_is_final_after_last_hour :
    ∃ usage later, (Usage.start ⟨2, 0, none, none⟩ []).after lastHour = some usage ∧
      usage.after (.close :: cleanUp) = some later ∧
      later.hands.isEmpty = true ∧ later.world.driver.network.opened = 2 ∧
      later.world.driver.pool.closed = true ∧ later.world.driver.pool.idle = [] ∧
      ∀ connection < 2, (later.world.driver.network.line connection).up = false := by
  obtain ⟨usage, hbefore⟩ :
      ∃ usage, (Usage.start ⟨2, 0, none, none⟩ []).after lastHour = some usage :=
    Option.isSome_iff_exists.mp (by rfl)
  have hseen : (((Usage.start ⟨2, 0, none, none⟩ []).after lastHour).bind
      (·.after (.close :: cleanUp))).map
        (fun later => (later.hands.isEmpty, later.world.driver.network.opened))
          = some (true, 2) := by
    rfl
  rw [hbefore, Option.bind_some, Option.map_eq_some_iff] at hseen
  obtain ⟨later, hlater, hseen⟩ := hseen
  obtain ⟨hhands, hopened⟩ := Prod.mk.inj hseen
  obtain ⟨hclosed, hidle, -, -, hdiscarded⟩ := closing_is_final hbefore hlater
  refine ⟨usage, later, hbefore, hlater, hhands, hopened, hclosed, hidle, ?_⟩
  intro connection hlt
  refine (hdiscarded connection (.inr (hopened.symm ▸ hlt))).resolve_left ?_
  rw [List.isEmpty_iff] at hhands
  simp [Usage.InHands, hhands]

end Result
end Postgres
end QueryBatch
