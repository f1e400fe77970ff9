import QueryBatch.Proofs.Batch.Ends
import QueryBatch.Proofs.Postgres.Stakes

/-!
# Calls among other calls

`Task.Meets` says that a call does its part whatever other calls do and whatever happens on the
lines while it waits: all it may rely on when it goes on is that the stakes account for the state,
its own among them. What a call promises is a `Contract`: what it has checked out while it waits,
how it leaves things when it is dropped, and what it returns.

`Task.Meets.run` carries a contract over to the run of the call by itself.
-/

namespace QueryBatch
namespace Postgres

variable {S α β : Type}

/-- What a call promises, next to the stakes of others. -/
structure Contract (S α : Type) where
  /-- What is checked out while the call waits. -/
  during : List Stake → Prop
  /-- How things are left if the call is dropped. -/
  dropped : World (State Wire) S → List Stake → Prop
  /-- What is returned. -/
  returned : α → World (State Wire) S → List Stake → Prop

/-- A stake whose line is the one now. -/
structure Holding (tx? : Option Nat) (live : Live) (line : Line) (world : World (State Wire) S)
    (others : List Stake) : Prop where
  sound : Sound world.driver (⟨tx?, live, line⟩ :: others)
  now : world.driver.network.line live.connection = line

section Defs

/-- A call keeps a contract from a world on, next to the stakes of others. -/
def Task.Meets (contract : Contract S α) :
    Task Wire S α → World (State Wire) S → List Stake → Prop
  | .done a, world, others => contract.returned a world others
  | .act next change, world, others => (next world).Meets contract (change world) others
  | .wait w next dropped, world, others =>
      ∃ mine, Sound world.driver (mine ++ others) ∧ contract.during mine ∧
        ∀ later others', Sound later.driver (mine ++ others') →
          contract.dropped (dropped later) others' ∧
            ∀ refusal answer left, w.resolve refusal later = some (answer, left) →
              (next answer).Meets contract left others'

/-- The same contract with another promise for the answer. -/
def Contract.returning (contract : Contract S α)
    (returned : β → World (State Wire) S → List Stake → Prop) : Contract S β where
  during := contract.during
  dropped := contract.dropped
  returned := returned

/-- The same contract for a call that is left in its own way when it is dropped. -/
def Contract.leaving (contract : Contract S α)
    (leave : World (State Wire) S → World (State Wire) S) : Contract S α where
  during := contract.during
  dropped world others := contract.dropped (leave world) others
  returned := contract.returned

/-- The contract of a call on one connection that is checked out: what is known of its line if the
call is dropped, and when it returns. -/
def onLine (tx? : Option Nat) (live : Live) (cut : Line → Prop) (returned : α → Line → Prop) :
    Contract S α where
  during mine := ∃ line, mine = [⟨tx?, live, line⟩]
  dropped world others := ∃ line, Sound world.driver (⟨tx?, live, line⟩ :: others) ∧ cut line
  returned a world others := ∃ line, Holding tx? live line world others ∧ returned a line

end Defs

/-- Three calls in a row are the first one and then the other two. -/
theorem Task.bind_assoc
    {ν γ : Type}
    (task : Task ν S α)
    (next : α → Task ν S β)
    (last : β → Task ν S γ) :
    (task >>= next) >>= last = task >>= fun a => next a >>= last := by
  induction task with
  | done a => rfl
  | act body change ih => exact congrArg (Task.act · change) (funext ih)
  | wait w body dropped ih => exact congrArg (Task.wait w · dropped) (funext ih)

/-- A call that goes on with another one runs the one and then the other. -/
theorem Task.run_bind
    {ν : Type}
    (net : Network ν)
    (task : Task ν S α)
    (next : α → Task ν S β)
    (cutoff : Option Nat)
    (world : World (State ν) S) :
    ((task >>= next).work net).run cutoff world
      = ((task.work net) >>= fun a => (next a).work net).run cutoff world := by
  induction task generalizing world with
  | done a => rfl
  | act body change ih => exact ih world (change world)
  | wait w body dropped ih =>
      change Ending.andThen (((net.awaited w).onCut dropped).run cutoff world) _
        = Ending.andThen (Ending.andThen (((net.awaited w).onCut dropped).run cutoff world) _) _
      rcases ((net.awaited w).onCut dropped).run cutoff world with ⟨answer | _ | _, left⟩
      · exact ih answer left
      · rfl
      · rfl

section Logic

variable {contract : Contract S α} {world : World (State Wire) S} {others : List Stake}
variable {task : Task Wire S α}

theorem meets_step_bind
    {f : World (State Wire) S → β × World (State Wire) S}
    {next : β → Task Wire S α} :
    (Task.step f >>= next).Meets contract world others
      ↔ (next (f world).1).Meets contract (f world).2 others :=
  Iff.rfl

theorem meets_change_bind
    {f : World (State Wire) S → World (State Wire) S}
    {next : Unit → Task Wire S α} :
    (Task.change f >>= next).Meets contract world others
      ↔ (next ()).Meets contract (f world) others :=
  Iff.rfl

theorem meets_look_bind
    {f : World (State Wire) S → β}
    {next : β → Task Wire S α} :
    (Task.look f >>= next).Meets contract world others
      ↔ (next (f world)).Meets contract world others :=
  Iff.rfl

namespace Task.Meets

theorem imp
    {other : Contract S α}
    (hmeets : task.Meets contract world others)
    (hduring : ∀ mine, contract.during mine → other.during mine)
    (hdropped : ∀ left others, contract.dropped left others → other.dropped left others)
    (hreturned : ∀ a left others, contract.returned a left others → other.returned a left others) :
    task.Meets other world others := by
  induction task generalizing world others with
  | done a => exact hreturned a world others hmeets
  | act next change ih => exact ih world hmeets
  | wait w next dropped ih =>
      obtain ⟨mine, hsound, hmine, hlater⟩ := hmeets
      refine ⟨mine, hsound, hduring mine hmine, fun later others' hsound' => ?_⟩
      obtain ⟨hdrop, hnext⟩ := hlater later others' hsound'
      refine ⟨hdropped _ _ hdrop, fun refusal answer left hanswer => ?_⟩
      exact ih answer (hnext refusal answer left hanswer)

/-- A call that goes on with another one meets what the second one meets after the first. -/
theorem bind
    {next : α → Task Wire S β}
    {contract : Contract S β}
    (hmeets : task.Meets
      (contract.returning fun a left others => (next a).Meets contract left others) world others) :
    (task >>= next).Meets contract world others := by
  induction task generalizing world others with
  | done a => exact hmeets
  | act body change ih => exact ih world hmeets
  | wait w body dropped ih =>
      obtain ⟨mine, hsound, hmine, hlater⟩ := hmeets
      refine ⟨mine, hsound, hmine, fun later others' hsound' => ?_⟩
      obtain ⟨hdrop, hnext⟩ := hlater later others' hsound'
      refine ⟨hdrop, fun refusal answer left hanswer => ?_⟩
      exact ih answer (hnext refusal answer left hanswer)

theorem onDrop
    {leave : World (State Wire) S → World (State Wire) S}
    (hmeets : task.Meets (contract.leaving leave) world others) :
    (task.onDrop leave).Meets contract world others := by
  induction task generalizing world others with
  | done a => exact hmeets
  | act body change ih => exact ih world hmeets
  | wait w body dropped ih =>
      obtain ⟨mine, hsound, hmine, hlater⟩ := hmeets
      refine ⟨mine, hsound, hmine, fun later others' hsound' => ?_⟩
      obtain ⟨hdrop, hnext⟩ := hlater later others' hsound'
      refine ⟨hdrop, fun refusal answer left hanswer => ?_⟩
      exact ih answer (hnext refusal answer left hanswer)

end Task.Meets
end Logic

section Runs

variable {done : α → World (State Wire) S → Prop} {cut : World (State Wire) S → Prop}
variable {cutoff : Option Nat} {world : World (State Wire) S}

theorem ends_takeTurn
    {world : World Wire S}
    {done : Turn → World Wire S → Prop}
    {cut : World Wire S → Prop}
    (hdone : ∀ turn left, world.driver.Drifts left.driver → left.openTx = world.openTx →
      done turn left)
    (hcut : ∀ left, world.driver.Drifts left.driver → left.openTx = world.openTx → cut left) :
    Ends done cut (Wire.takeTurn.run cutoff world) := by
  unfold Wire.takeTurn
  apply ends_bind
  rw [Work.run_step, ends_done]
  cases hms : world.driver.turn.1.ms with
  | none => exact ends_never fun _ => hcut _ (.turn _) rfl
  | some ms =>
      apply ends_bind
      apply ends_sleep
      · exact fun _ => hdone _ _ (.turn _) rfl
      · exact fun _ => hcut _ (.turn _) rfl

/-- The pool's world passes on when the network drifts in its own part of it. -/
theorem Passes.of_network
    {left : World Wire S}
    {later : World (State Wire) S}
    (hdrifts : world.driver.network.Drifts left.driver)
    (hleft : left.openTx = world.openTx)
    (hlater : later.driver = { world.driver with network := left.driver })
    (hopen : later.openTx = left.openTx) :
    Passes world later := by
  refine ⟨hopen.trans hleft, ?_, ?_, ?_, ?_⟩ <;> rw [hlater]
  exact hdrifts

/-- What the network does when its turn has come. -/
theorem ends_lift_takeTurn
    {next : Turn → Work Wire S α}
    (hnext : ∀ turn left, world.driver.network.Drifts left.driver → left.openTx = world.openTx →
      Ends
        (fun a part => ∀ later, later.driver = { world.driver with network := part.driver } →
          later.openTx = part.openTx → done a later)
        (fun part => ∀ later, later.driver = { world.driver with network := part.driver } →
          later.openTx = part.openTx → cut later)
        ((next turn).run cutoff left))
    (hcut : ∀ later, Passes world later → cut later) :
    Ends done cut ((Network.lift (Wire.takeTurn >>= next)).run cutoff world) := by
  unfold Network.lift
  apply ends_onPart
  apply ends_bind
  apply ends_takeTurn
  · exact hnext
  · intro left hdrifts hleft later hlater hopen
    exact hcut later (.of_network hdrifts hleft hlater hopen)

theorem ends_takePermit
    {done : Wait.permit.Answer → World (State Wire) S → Prop}
    (hdone : ∀ later refusal answer left, Passes world later →
      Wait.permit.resolve refusal later = some (answer, left) → done answer left)
    (hcut : ∀ later, Passes world later → cut later) :
    Ends done cut ((Network.takePermit : Work (State Wire) S _).run cutoff world) := by
  unfold Network.takePermit
  apply ends_bind
  rw [Work.run_driver, ends_done]
  cases hask : world.driver.pool.requestPermit with
  | refused => exact hdone world none _ _ (.refl world) (by simp [Wait.resolve, hask])
  | waiting => exact ends_never fun _ => hcut _ (.of_driver rfl rfl)
  | granted pool => exact hdone world none _ _ (.refl world) (by simp [Wait.resolve, hask])

theorem ends_connect
    {done : Wait.connection.Answer → World (State Wire) S → Prop}
    (hdone : ∀ later refusal answer left, Passes world later →
      Wait.connection.resolve refusal later = some (answer, left) → done answer left)
    (hcut : ∀ later, Passes world later → cut later) :
    Ends done cut ((Network.lift Wire.connect).run cutoff world) := by
  apply ends_lift_takeTurn _ hcut
  intro turn left hdrifts hleft
  cases hrefusal : turn.refusal with
  | some fault =>
      intro later hlater hopen
      exact hdone later (some fault) _ _ (.of_network hdrifts hleft hlater hopen) rfl
  | none =>
      rw [Work.run_step, ends_done]
      intro later hlater hopen
      -- the wait is over before the connection is counted as opened
      let before : World (State Wire) S :=
        { later with driver := { world.driver with network := left.driver } }
      have hafter : changeNetwork (fun wire => { wire with opened := wire.opened + 1 }) before
          = later := by
        simp [before, changeNetwork, ← hlater]
      refine hdone before none _ _ (.of_network hdrifts hleft rfl hopen) ?_
      rw [← hafter]
      rfl

theorem ends_await
    {connection position : Nat}
    {done : (Wait.reply connection position).Answer → World (State Wire) S → Prop}
    (hdone : ∀ later refusal answer left, Passes world later →
      (Wait.reply connection position).resolve refusal later = some (answer, left) →
        done answer left)
    (hcut : ∀ later, Passes world later → cut later) :
    Ends done cut ((Network.lift (Wire.await connection position)).run cutoff world) := by
  apply ends_lift_takeTurn _ hcut
  intro turn left hdrifts hleft
  apply ends_bind
  rw [Work.run_look, ends_done]
  cases hreply : (left.driver.line connection).reply? position with
  | some result =>
      intro later hlater hopen
      refine hdone later none _ _ (.of_network hdrifts hleft hlater hopen) ?_
      simp [Wait.resolve, hlater, hreply]
  | none =>
      apply ends_never
      intro now later hlater hopen
      exact hcut later (.of_network hdrifts hleft hlater hopen)

/-- A wait ends as it may end in some world that is reached meanwhile. -/
theorem ends_awaited
    (q : Wait)
    {done : q.Answer → World (State Wire) S → Prop}
    (hdone : ∀ later refusal answer left, Passes world later →
      q.resolve refusal later = some (answer, left) → done answer left)
    (hcut : ∀ later, Passes world later → cut later) :
    Ends done cut ((Wire.network.awaited q).run cutoff world) := by
  cases q with
  | permit => exact ends_takePermit hdone hcut
  | connection => exact ends_connect hdone hcut
  | reply connection position => exact ends_await hdone hcut

/-- Run by itself, a call keeps its contract. -/
theorem Task.Meets.run
    {task : Task Wire S α}
    {contract : Contract S α}
    {others : List Stake}
    (hmeets : task.Meets contract world others)
    (cutoff : Option Nat) :
    Ends (fun a left => contract.returned a left others)
      (fun left => contract.dropped left others)
      ((task.work Wire.network).run cutoff world) := by
  induction task generalizing world with
  | done a => exact hmeets
  | act next change ih => exact ih world hmeets
  | wait w next dropped ih =>
      obtain ⟨mine, hsound, -, hlater⟩ := hmeets
      apply ends_bind
      apply ends_onCut
      apply ends_awaited
      · intro later refusal answer left hpasses hanswer
        obtain ⟨-, hnext⟩ := hlater later others (hsound.passes hpasses)
        exact ih answer (hnext refusal answer left hanswer)
      · intro later hpasses
        exact (hlater later others (hsound.passes hpasses)).1

end Runs
end Postgres
end QueryBatch
