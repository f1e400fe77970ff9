import QueryBatch.Proofs.Batch.Histories

/-!
# Calls that share a handle

`SharedHandle.Step` is what one action can do to a handle in use, and `SharedHandle.Orderly` is what
every step keeps: who has the lock, what the calls wait for, and how the log goes on.

`shared_handle_is_serial` is the result. Whatever the calls do and wherever they are dropped, the
transaction sees one thing after the other, and nothing after its commit or rollback.
-/

namespace QueryBatch

variable {ρ : Type}

section Steps

/-- A call that waits for the lock. -/
def HandleCall.waiting (call : HandleCall) : Pending ρ := ⟨call, call.task⟩

/-- A call that waits for the driver. -/
def TxCall.inDriver (call : TxCall) : Pending ρ := ⟨.ask call, call.driving⟩

/-- Who has the lock once the driver has stopped to work for a call. -/
def TxCall.heldAfter : TxCall → Option Nat → Option Nat
  | send _, _ => none
  | commit, holder | rollback, holder => holder

namespace SharedHandle

/-- What one action can do to a handle in use. -/
inductive Step (s : SharedHandle ρ) : SharedHandle ρ → Prop
  | made (call : HandleCall) :
      s.Step ({ s with calls := s.calls + 1 }.suspend s.calls (some call.waiting))
  /-- Drop a call that waits for the lock. -/
  | left {id : Nat} {call : HandleCall} (hpending : s.pending id = some call.waiting) :
      s.Step (s.suspend id none)
  | refused {id : Nat} {call : HandleCall} (hpending : s.pending id = some call.waiting)
      (hfree : s.holder = none) (hshut : s.isOpen = false) :
      s.Step ((s.suspend id none).record [.obtained id call, .returned id call.refusal])
  | looked {id : Nat} (hpending : s.pending id = some HandleCall.isClosed.waiting)
      (hfree : s.holder = none) (hopen : s.isOpen = true) :
      s.Step ((s.suspend id none).record
        [.obtained id .isClosed, .returned id (.closed false)])
  /-- Begin to send, and keep the lock. -/
  | sending {id : Nat} {statements : List Statement}
      (hpending : s.pending id = some (HandleCall.ask (.send statements)).waiting)
      (hfree : s.holder = none) (hopen : s.isOpen = true) :
      s.Step (({ s with holder := some id }.suspend id
          (some (TxCall.send statements).inDriver)).record
        [.obtained id (.ask (.send statements)), .began id (.send statements)])
  /-- Begin to commit or roll back, with the transaction taken out. -/
  | finishing {id : Nat} {call : TxCall} (hcall : call.finishes = true)
      (hpending : s.pending id = some (HandleCall.ask call).waiting)
      (hfree : s.holder = none) (hopen : s.isOpen = true) :
      s.Step (({ s with isOpen := false }.suspend id (some call.inDriver)).record
        [.obtained id (.ask call), .began id call])
  | answered {id : Nat} {call : TxCall} (hpending : s.pending id = some call.inDriver)
      (answer : call.Answer ρ) :
      s.Step (({ s with holder := call.heldAfter s.holder }.suspend id none).record
        [.ended id call, .returned id (.answer call answer)])
  /-- Drop a call that the driver works for. -/
  | stopped {id : Nat} {call : TxCall} (hpending : s.pending id = some call.inDriver) :
      s.Step (({ s with holder := call.heldAfter s.holder }.suspend id none).record
        [.ended id call])

/-- The calls on a handle in use, who has its lock, and its history. -/
structure Orderly (s : SharedHandle ρ) : Prop where
  waits : ∀ id p, s.pending id = some p → (∃ call, p = HandleCall.waiting call) ∨
    ∃ call, p = TxCall.inDriver call ∧
      (if call.finishes then s.isOpen = false else s.holder = some id)
  fresh : ∀ id, s.calls ≤ id → s.pending id = none
  holds : ∀ id, s.holder = some id → s.isOpen = true ∧ ∃ statements,
    s.pending id = some (TxCall.send statements).inDriver ∧
      AtRest (s.log ++ [.ended id (.send statements)])
  rests : s.isOpen = true → s.holder = none → AtRest s.log
  lawful : Lawful s.isOpen s.log

variable {s later : SharedHandle ρ} {id : Nat}

/-- Every call begins by waiting for the lock. -/
theorem waiting_eq
    (call : HandleCall) :
    ∃ next : Bool → HandleTask ρ, call.waiting = ⟨call, .lock next⟩ := by
  rcases call with (_ | _ | _) | _ <;> exact ⟨_, rfl⟩

theorem waiting_ne_inDriver
    (call : HandleCall)
    (asked : TxCall) :
    (call.waiting : Pending ρ) ≠ asked.inDriver := by
  obtain ⟨next, hnext⟩ : ∃ next, call.waiting = (⟨call, .lock next⟩ : Pending ρ) := waiting_eq call
  simp [hnext, TxCall.inDriver, TxCall.driving]

theorem proceed_task
    (call : HandleCall) :
    proceed id call call.task s = s.suspend id (some call.waiting) := by
  rcases call with (_ | _ | _) | _ <;> rfl

theorem next_grant
    {call : HandleCall}
    {next : Bool → HandleTask ρ}
    (hpending : s.pending id = some ⟨call, .lock next⟩)
    (hfree : s.holder = none) :
    s.next (.grant id) = some (proceed id call (next s.isOpen)
      (({ s with holder := some id }.suspend id none).record [.obtained id call])) := by
  simp [SharedHandle.next, hpending, hfree]

theorem step_grant
    {call : HandleCall}
    (hpending : s.pending id = some call.waiting)
    (hfree : s.holder = none)
    (hnext : s.next (.grant id) = some later) :
    s.Step later := by
  obtain ⟨isOpen, holder, pending, calls, log⟩ := s
  obtain rfl : holder = none := hfree
  rcases call with (statements | _ | _) | _ <;> cases isOpen <;>
    obtain rfl := Option.some.inj ((next_grant hpending rfl).symm.trans hnext)
  · simpa [proceed, record, suspend, HandleCall.refusal] using Step.refused hpending rfl rfl
  · have hstep := Step.sending hpending rfl rfl
    simpa [proceed, record, suspend, TxCall.inDriver, TxCall.driving] using hstep
  · simpa [proceed, record, suspend, HandleCall.refusal] using Step.refused hpending rfl rfl
  · have hstep := Step.finishing rfl hpending rfl rfl
    simpa [proceed, record, suspend, TxCall.inDriver, TxCall.driving] using hstep
  · simpa [proceed, record, suspend, HandleCall.refusal] using Step.refused hpending rfl rfl
  · have hstep := Step.finishing rfl hpending rfl rfl
    simpa [proceed, record, suspend, TxCall.inDriver, TxCall.driving] using hstep
  · simpa [proceed, record, suspend, HandleCall.refusal] using Step.refused hpending rfl rfl
  · simpa [proceed, record, suspend] using Step.looked hpending rfl rfl

theorem step_answer
    {call : TxCall}
    {reply : (asked : TxCall) → asked.Answer ρ}
    (hpending : s.pending id = some call.inDriver)
    (hnext : s.next (.answer id reply) = some later) :
    s.Step later := by
  have hproceed : s.next (.answer id reply)
      = some (proceed id (.ask call) (call.letGo (.done (.answer call (reply call))))
        ((s.suspend id none).record [.ended id call])) := by
    simp [SharedHandle.next, hpending, TxCall.inDriver, TxCall.driving]
  obtain rfl := Option.some.inj (hproceed.symm.trans hnext)
  have hstep := Step.answered hpending (reply call)
  cases call <;> simpa [proceed, record, suspend, TxCall.letGo, TxCall.heldAfter] using hstep

theorem Orderly.drop_waiting
    {call : HandleCall}
    (hs : s.Orderly)
    (hpending : s.pending id = some call.waiting) :
    s.next (.drop id) = some (s.suspend id none) := by
  have hholder : s.holder ≠ some id := by
    intro heq
    obtain ⟨-, statements, hsend, -⟩ := hs.holds id heq
    exact waiting_ne_inDriver _ _ (Option.some.inj (hpending.symm.trans hsend))
  obtain ⟨next, hnext⟩ : ∃ next, call.waiting = (⟨call, .lock next⟩ : Pending ρ) := waiting_eq call
  simp [SharedHandle.next, hpending, hholder, hnext]

theorem inDriver_injective :
    Function.Injective (TxCall.inDriver : TxCall → Pending ρ) := by
  intro call other heq
  exact HandleCall.ask.inj (congrArg Pending.call heq)

theorem Orderly.holder_inDriver
    {call : TxCall}
    (hs : s.Orderly)
    (hpending : s.pending id = some call.inDriver) :
    if call.finishes then s.isOpen = false ∧ s.holder = none else s.holder = some id := by
  rcases hs.waits id _ hpending with ⟨other, heq⟩ | ⟨other, heq, hother⟩
  · exact absurd heq.symm (waiting_ne_inDriver _ _)
  · obtain rfl := inDriver_injective heq
    split_ifs at hother ⊢
    · refine ⟨hother, ?_⟩
      cases hholder : s.holder with
      | none => rfl
      | some holder => simp [(hs.holds holder hholder).1] at hother
    · exact hother

theorem Orderly.drop_inDriver
    {call : TxCall}
    (hs : s.Orderly)
    (hpending : s.pending id = some call.inDriver) :
    s.next (.drop id) = some (({ s with holder := call.heldAfter s.holder }.suspend id none).record
      [.ended id call]) := by
  have hholder := hs.holder_inDriver hpending
  cases call <;> simp [TxCall.finishes] at hholder <;>
    simp [SharedHandle.next, hpending, hholder, TxCall.inDriver, TxCall.driving, TxCall.heldAfter]

/-- What an action does is one of the steps. -/
theorem Orderly.step
    {action : HandleAction ρ}
    (hs : s.Orderly)
    (hnext : s.next action = some later) :
    s.Step later := by
  cases action with
  | call call =>
    obtain rfl := Option.some.inj hnext
    rw [proceed_task]
    exact .made call
  | grant id =>
    cases hpending : s.pending id with
    | none => simp [SharedHandle.next, hpending] at hnext
    | some p =>
      rcases hs.waits id p hpending with ⟨call, rfl⟩ | ⟨call, rfl, -⟩
      · cases hfree : s.holder with
        | none => exact step_grant hpending hfree hnext
        | some holder => simp [SharedHandle.next, hpending, hfree] at hnext
      · simp [SharedHandle.next, hpending, TxCall.inDriver, TxCall.driving] at hnext
  | answer id reply =>
    cases hpending : s.pending id with
    | none => simp [SharedHandle.next, hpending] at hnext
    | some p =>
      rcases hs.waits id p hpending with ⟨call, rfl⟩ | ⟨call, rfl, -⟩
      · obtain ⟨task, htask⟩ : ∃ task, call.waiting = (⟨call, .lock task⟩ : Pending ρ) :=
          waiting_eq call
        simp [SharedHandle.next, hpending, htask] at hnext
      · exact step_answer hpending hnext
  | drop id =>
    cases hpending : s.pending id with
    | none => simp [SharedHandle.next, hpending] at hnext
    | some p =>
      rcases hs.waits id p hpending with ⟨call, rfl⟩ | ⟨call, rfl, -⟩
      · obtain rfl := Option.some.inj ((hs.drop_waiting hpending).symm.trans hnext)
        exact .left hpending
      · obtain rfl := Option.some.inj ((hs.drop_inDriver hpending).symm.trans hnext)
        exact .stopped hpending

theorem suspend_pending
    (waiting : Option (Pending ρ))
    (other : Nat) :
    (s.suspend id waiting).pending other = if other = id then waiting else s.pending other :=
  Function.update_apply ..

end SharedHandle
end Steps

section Preservation

namespace SharedHandle

variable {s later : SharedHandle ρ} {id : Nat}

theorem Orderly.init :
    ({} : SharedHandle ρ).Orderly where
  waits := by simp
  fresh := by simp
  holds := by simp
  rests _ _ := by simp [AtRest]
  lawful := {
    serial := by simp [Serial]
    refuses := by simp [RefusesAfterFinish]
    forGood := by simp [ClosedForGood]
    closed := by simp [Finishing]
    tells := by simp [TellsFinish] }

theorem Orderly.made
    (hs : s.Orderly)
    (call : HandleCall) :
    ({ s with calls := s.calls + 1 }.suspend s.calls (some call.waiting)).Orderly where
  waits other p hp := by
    rw [suspend_pending] at hp
    split_ifs at hp with hother
    · exact .inl ⟨call, (Option.some.inj hp).symm⟩
    · exact hs.waits other p hp
  fresh other hother := by
    have hlt : s.calls + 1 ≤ other := hother
    rw [suspend_pending, if_neg (by omega)]
    exact hs.fresh other (by omega)
  holds other hother := by
    obtain ⟨hopen, statements, hpending, hrest⟩ := hs.holds other hother
    have hne : other ≠ s.calls := by
      rintro rfl
      simp [hs.fresh s.calls le_rfl] at hpending
    exact ⟨hopen, statements, (suspend_pending _ _).trans ((if_neg hne).trans hpending), hrest⟩
  rests := hs.rests
  lawful := hs.lawful

theorem Orderly.left
    {call : HandleCall}
    (hs : s.Orderly)
    (hpending : s.pending id = some call.waiting) :
    (s.suspend id none).Orderly where
  waits other p hp := by
    rw [suspend_pending] at hp
    split_ifs at hp with hother
    exact hs.waits other p hp
  fresh other hother := by
    rw [suspend_pending]
    split_ifs
    · rfl
    · exact hs.fresh other hother
  holds other hother := by
    obtain ⟨hopen, statements, hsend, hrest⟩ := hs.holds other hother
    have hne : other ≠ id := by
      rintro rfl
      exact waiting_ne_inDriver _ _ (Option.some.inj (hpending.symm.trans hsend))
    exact ⟨hopen, statements, (suspend_pending _ _).trans ((if_neg hne).trans hsend), hrest⟩
  rests := hs.rests
  lawful := hs.lawful

/-- A call gets the lock and returns at once. -/
theorem Orderly.returned
    {call : HandleCall}
    {result : HandleResult ρ}
    (hs : s.Orderly)
    (hpending : s.pending id = some call.waiting)
    (hfree : s.holder = none)
    (hrefused : s.isOpen = false → result = call.refusal)
    (hclosed : ∀ closed, result = .closed closed → closed = !s.isOpen) :
    ((s.suspend id none).record [.obtained id call, .returned id result]).Orderly :=
  have hleft := hs.left hpending
  { waits := hleft.waits
    fresh := hleft.fresh
    holds := by
      intro other hother
      cases hfree.symm.trans hother
    rests := by
      intro hopen _
      have hrest : AtRest (s.log ++ [.obtained id call] ++ [.returned id result]) :=
        ((hs.rests hopen hfree).concat (by simp)).concat (by simp)
      simpa [record, suspend] using hrest
    lawful := by
      have hlawful : Lawful s.isOpen (s.log ++ [.obtained id call] ++ [.returned id result]) := by
        refine hs.lawful.obtain (by simp) (by simp) ?_ ?_ (by simp)
        · intro hshut
          rw [hrefused hshut]
        · intro a closed heq
          exact hclosed closed (HandleEvent.returned.inj heq).2
      simpa [record, suspend] using hlawful }

/-- While nobody has the lock of an open handle, all calls wait for it. -/
theorem Orderly.waiting_of_free
    {p : Pending ρ}
    (hs : s.Orderly)
    (hfree : s.holder = none)
    (hopen : s.isOpen = true)
    (hp : s.pending id = some p) :
    ∃ call, p = HandleCall.waiting call := by
  rcases hs.waits id p hp with hwaiting | ⟨call, -, hcall⟩
  · exact hwaiting
  · cases hfinishes : call.finishes <;> simp [hfinishes, hfree, hopen] at hcall

/-- A call gets the lock of an open handle, and the driver works for it. -/
theorem Orderly.begun
    {call : TxCall}
    (hs : s.Orderly)
    (hpending : s.pending id = some (HandleCall.ask call).waiting)
    (hfree : s.holder = none)
    (hopen : s.isOpen = true) :
    (({ s with
        isOpen := !call.finishes
        holder := if call.finishes then none else some id }.suspend id
          (some call.inDriver)).record
      [.obtained id (.ask call), .began id call]).Orderly where
  waits other p hp := by
    rw [record, suspend_pending] at hp
    rcases eq_or_ne other id with rfl | hother
    · rw [if_pos rfl] at hp
      refine .inr ⟨call, (Option.some.inj hp).symm, ?_⟩
      cases call <;> rfl
    · rw [if_neg hother] at hp
      exact .inl (hs.waiting_of_free hfree hopen hp)
  fresh other hother := by
    have hne : other ≠ id := by
      rintro rfl
      simp [hs.fresh other hother] at hpending
    rw [record, suspend_pending, if_neg hne]
    exact hs.fresh other hother
  holds other hother := by
    cases call with
    | send statements =>
      obtain rfl : id = other := Option.some.inj hother
      have hrest : AtRest (s.log ++ [.obtained id (.ask (.send statements))]) :=
        (hs.rests hopen hfree).concat (by simp)
      refine ⟨rfl, statements, (suspend_pending _ _).trans (if_pos rfl), ?_⟩
      have hsent : AtRest (s.log ++ [.obtained id (.ask (.send statements))]
          ++ [.began id (.send statements)] ++ [.ended id (.send statements)]) :=
        hrest.answered rfl
      simpa [record, suspend] using hsent
    | commit => cases hother
    | rollback => cases hother
  rests hstays hnobody := by
    cases call with
    | send statements => cases hnobody
    | commit => cases hstays
    | rollback => cases hstays
  lawful := by
    have hlawful : Lawful (!call.finishes)
        (s.log ++ [.obtained id (.ask call)] ++ [.began id call]) := by
      refine hs.lawful.obtain ?_ (by simp) ?_ (by simp) ?_
      · intro _ _ _
        exact hs.rests hopen hfree
      · intro hshut
        simp [hopen] at hshut
      · simp [hopen]
    simpa [record, suspend] using hlawful

theorem Orderly.eq_of_holder
    {call : TxCall}
    {other : Nat}
    (hs : s.Orderly)
    (hpending : s.pending id = some call.inDriver)
    (hholder : s.holder = some other) :
    other = id := by
  have hcall := hs.holder_inDriver hpending
  cases hfinishes : call.finishes <;> simp [hfinishes, hholder] at hcall
  exact hcall

theorem Orderly.heldAfter_eq
    {call : TxCall}
    (hs : s.Orderly)
    (hpending : s.pending id = some call.inDriver) :
    call.heldAfter s.holder = none := by
  have hcall := hs.holder_inDriver hpending
  cases call with
  | send statements => rfl
  | commit => exact hcall.2
  | rollback => exact hcall.2

/-- Nothing is left to do for the driver once it has stopped to work for a call. -/
theorem Orderly.atRest_ended
    {call : TxCall}
    (hs : s.Orderly)
    (hpending : s.pending id = some call.inDriver)
    (hopen : s.isOpen = true) :
    AtRest (s.log ++ [.ended id call]) := by
  have hcall := hs.holder_inDriver hpending
  cases hfinishes : call.finishes <;> simp [hfinishes, hopen] at hcall
  obtain ⟨-, statements, hsend, hrest⟩ := hs.holds id hcall
  obtain rfl := inDriver_injective (Option.some.inj (hpending.symm.trans hsend))
  exact hrest

/-- The driver answers, or its work is dropped with the call. -/
theorem Orderly.ended
    {call : TxCall}
    {told : List (HandleEvent ρ)}
    (hs : s.Orderly)
    (hpending : s.pending id = some call.inDriver)
    (htold : told = [] ∨ ∃ answer, told = [.returned id (.answer call answer)]) :
    (({ s with holder := call.heldAfter s.holder }.suspend id none).record
      (.ended id call :: told)).Orderly where
  waits other p hp := by
    rw [record, suspend_pending] at hp
    split_ifs at hp with hne
    rcases hs.waits other p hp with hwaiting | ⟨asked, rfl, hasked⟩
    · exact .inl hwaiting
    · refine .inr ⟨asked, rfl, ?_⟩
      split_ifs at hasked ⊢
      · exact hasked
      · exact absurd (hs.eq_of_holder hpending hasked) hne
  fresh other hother := by
    rw [record, suspend_pending]
    split_ifs
    · rfl
    · exact hs.fresh other hother
  holds other hother := by
    cases (hs.heldAfter_eq hpending).symm.trans hother
  rests hopen _ := by
    have hrest := hs.atRest_ended hpending hopen
    rcases htold with rfl | ⟨answer, rfl⟩
    · exact hrest
    · have hreturned : AtRest
          (s.log ++ [.ended id call] ++ [.returned id (.answer call answer)]) :=
        hrest.concat (by simp)
      simpa [record, suspend] using hreturned
  lawful := by
    have hlawful : Lawful s.isOpen (s.log ++ [.ended id call]) :=
      hs.lawful.concat (by simp) (by simp) (by simp)
    rcases htold with rfl | ⟨answer, rfl⟩
    · exact hlawful
    · have hreturned : Lawful s.isOpen
          (s.log ++ [.ended id call] ++ [.returned id (.answer call answer)]) :=
        hlawful.concat (by simp) (by simp) (by simp)
      simpa [record, suspend] using hreturned

/-- Every step keeps the calls in order. -/
theorem Orderly.of_step
    (hs : s.Orderly)
    (hstep : s.Step later) :
    later.Orderly := by
  cases hstep with
  | made call => exact hs.made call
  | left hpending => exact hs.left hpending
  | @refused id call hpending hfree hshut =>
    refine hs.returned hpending hfree (fun _ => rfl) ?_
    rintro closed heq
    cases call with
    | ask call => cases heq
    | isClosed =>
      obtain rfl := HandleResult.closed.inj heq
      simp [hshut]
  | looked hpending hfree hopen =>
    refine hs.returned hpending hfree ?_ ?_
    · intro hshut
      cases hopen.symm.trans hshut
    · rintro closed ⟨⟩
      simp [hopen]
  | sending hpending hfree hopen =>
    have hbegun := hs.begun hpending hfree hopen
    simpa [TxCall.finishes, hopen] using hbegun
  | finishing hcall hpending hfree hopen =>
    have hbegun := hs.begun hpending hfree hopen
    simpa [hcall, hfree] using hbegun
  | answered hpending answer => exact hs.ended hpending (.inr ⟨answer, rfl⟩)
  | stopped hpending => exact hs.ended hpending (.inl rfl)

theorem Orderly.after
    {actions : List (HandleAction ρ)}
    (hs : s.Orderly)
    (hafter : s.after actions = some later) :
    later.Orderly := by
  induction actions generalizing s with
  | nil =>
    obtain rfl := Option.some.inj hafter
    exact hs
  | cons action rest ih =>
    unfold SharedHandle.after at hafter
    split at hafter
    · cases hafter
    · rename_i middle hnext
      exact ih (hs.of_step (hs.step hnext)) hafter

end SharedHandle
end Preservation

section Result

/-- Dropping a call that waits leaves the transaction and the lock as they were. Dropping a commit
or rollback that the driver works for leaves the handle closed. -/
def SharedHandle.Droppable (s : SharedHandle ρ) : Prop :=
  ∀ (id : Nat) (p : Pending ρ), s.pending id = some p →
    ∃ later, s.next (.drop id) = some later ∧
      ((∃ call, p = HandleCall.waiting call) ∧ later = s.suspend id none ∨
        ∃ call, p = TxCall.inDriver call ∧ (call.finishes = true → later.isOpen = false))

/-- Whatever the calls on a handle do, and however they are dropped, the transaction sees one thing
after the other and nothing after its commit or rollback; from then on the handle is closed. -/
theorem shared_handle_is_serial
    {actions : List (HandleAction ρ)}
    {s : SharedHandle ρ}
    (hafter : ({} : SharedHandle ρ).after actions = some s) :
    Serial s.log ∧ RefusesAfterFinish s.log ∧ ClosedForGood s.log ∧
      (s.isOpen = false ↔ Finishing s.log) ∧ s.Droppable := by
  have hs := SharedHandle.Orderly.init.after hafter
  refine ⟨hs.lawful.serial, hs.lawful.refuses, hs.lawful.forGood, hs.lawful.closed, ?_⟩
  intro id p hp
  rcases hs.waits id p hp with ⟨call, rfl⟩ | ⟨call, rfl, hcall⟩
  · exact ⟨_, hs.drop_waiting hp, .inl ⟨⟨call, rfl⟩, rfl⟩⟩
  · refine ⟨_, hs.drop_inDriver hp, .inr ⟨call, rfl, fun hfinishes => ?_⟩⟩
    rw [if_pos hfinishes] at hcall
    exact hcall

/-- A send, a commit that is dropped while the driver works, and somebody who asks. -/
def droppedCommit : List (HandleAction Unit) :=
  [.call (.ask (.send [])), .call (.ask .commit), .call .isClosed, .grant 0,
    .answer 0 fun call => call.refusal, .grant 1, .drop 1, .grant 2]

theorem shared_handle_is_serial_with_dropped_commit :
    ∃ s, ({} : SharedHandle Unit).after droppedCommit = some s ∧
      s.log = [.obtained 0 (.ask (.send [])), .began 0 (.send []), .ended 0 (.send []),
        .returned 0 (.answer (.send []) (.error .txClosed)),
        .obtained 1 (.ask .commit), .began 1 .commit, .ended 1 .commit,
        .obtained 2 .isClosed, .returned 2 (.closed true)] ∧
      Serial s.log ∧ RefusesAfterFinish s.log ∧ ClosedForGood s.log ∧
      (s.isOpen = false ↔ Finishing s.log) ∧ s.Droppable := by
  refine ⟨_, rfl, rfl, ?_⟩
  have hafter : ({} : SharedHandle Unit).after droppedCommit = some _ := rfl
  exact shared_handle_is_serial hafter

end Result

end QueryBatch
