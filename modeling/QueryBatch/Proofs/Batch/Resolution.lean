import QueryBatch.Batch.Run
import QueryBatch.Proofs.Batch.Callback
import QueryBatch.Proofs.Batch.Pool

/-!
# Resolving a batch, all or nothing

A batch sent outside of transactions reaches the pool as one call with the accepted statements in
the order of queueing. It succeeds exactly if as many answers come back in time and each meets the
contract of its own statement, and then every slot holds what the last statement queued for it was
answered. In every other case all slots are as the callback left them, and the error tells the first
thing that went wrong.
-/

namespace QueryBatch

variable {ρ : Type} {K : Type} {V : K → Type}

section Defs

/-- Every slot holds what the answer to the last statement queued for it says. Slots for which no
statement was queued are as before. -/
structure Published [DecidableEq K]
    (queued : List (Queued ρ V))
    (answers : List (Answer ρ))
    (before after : Cells V) : Prop where
  last : ∀ (i : Nat) (entry : Queued ρ V) (answer : Answer ρ),
    queued[i]? = some entry → answers[i]? = some answer →
    (∀ (j : Nat) (later : Queued ρ V), i < j → queued[j]? = some later →
      later.call.key? ≠ entry.call.key?) →
    entry.call.Fills answer after
  others : ∀ k, (∀ entry ∈ queued, entry.call.key? ≠ some k) → after k = before k

/-- The answers up to a position are as expected, and the one there is not. -/
structure FirstBreak
    (queued : List (Queued ρ V))
    (answers : List (Answer ρ))
    (i : Nat)
    (source : Error) : Prop where
  earlier : ∀ (j : Nat) (entry : Queued ρ V) (answer : Answer ρ),
    j < i → queued[j]? = some entry → answers[j]? = some answer → entry.call.Meets answer
  here : ∃ entry answer, queued[i]? = some entry ∧ answers[i]? = some answer ∧
    entry.call.Breaks answer source

/-- How a batch that was sent ends without success: unanswered, refused by the pool, with a wrong
number of answers, or with the first answer that is not as expected. -/
inductive Reported
    (queued : List (Queued ρ V))
    (deadline cutoff : Option Nat) :
    Option (Nat × Except DriverError (List (Answer ρ))) → Ending (Except Error Unit) → Prop
  | unanswered : Reported queued deadline cutoff none (unanswered deadline cutoff .send)
  | refused
      (time : Nat)
      (e : DriverError) :
      Reported queued deadline cutoff (some (time, .error e)) (.done (.error (.send e)))
  | count
      (time : Nat)
      (answers : List (Answer ρ))
      (hlength : answers.length ≠ queued.length) :
      Reported queued deadline cutoff (some (time, .ok answers))
        (.done (.error (.resultCount queued.length answers.length)))
  | statement
      (time : Nat)
      (answers : List (Answer ρ))
      (hlength : answers.length = queued.length)
      (i : Nat)
      (source : Error)
      (hfirst : FirstBreak queued answers i source) :
      Reported queued deadline cutoff (some (time, .ok answers))
        (.done (.error (.statement i source)))

/-- How a batch that was sent settles. It succeeds exactly if an answer for each statement is
received that is as expected, and then the answers are published. Otherwise the failure is reported
and the slots are as before. -/
structure Settled [DecidableEq K]
    (queued : List (Queued ρ V))
    (deadline cutoff : Option Nat)
    (received : Option (Nat × Except DriverError (List (Answer ρ))))
    (ending : Ending (Except Error Unit))
    (before after : Cells V) : Prop where
  succeeds : ending = .done (.ok ()) ↔ ∃ time answers, received = some (time, .ok answers) ∧
    List.Forall₂ (fun entry answer => entry.call.Meets answer) queued answers
  publishes : ∀ time answers, ending = .done (.ok ()) → received = some (time, .ok answers) →
    Published queued answers before after
  reports : ending ≠ .done (.ok ()) →
    Reported queued deadline cutoff received ending ∧ after = before

end Defs

section Contracts

variable {queued : List (Queued ρ V)} {answers : List (Answer ρ)}
variable {head : Queued ρ V} {answer : Answer ρ}

theorem FirstBreak.cons
    {i : Nat}
    {source : Error}
    (hfirst : FirstBreak queued answers i source)
    (hmeets : head.call.Meets answer) :
    FirstBreak (head :: queued) (answer :: answers) (i + 1) source := by
  refine ⟨?_, hfirst.here⟩
  intro j entry other hj hentry hanswer
  cases j with
  | zero =>
      cases hentry
      cases hanswer
      exact hmeets
  | succ j => exact hfirst.earlier j entry other (Nat.lt_of_succ_lt_succ hj) hentry hanswer

/-- A batch with an answer that is not as expected does not have only answers that are. -/
theorem FirstBreak.not_forall₂
    {i : Nat}
    {source : Error}
    (hfirst : FirstBreak queued answers i source) :
    ¬ List.Forall₂ (fun entry answer => entry.call.Meets answer) queued answers := by
  intro hall
  obtain ⟨entry, other, hentry, hother, hbreaks⟩ := hfirst.here
  obtain ⟨hi, rfl⟩ := List.getElem?_eq_some_iff.1 hentry
  obtain ⟨hj, rfl⟩ := List.getElem?_eq_some_iff.1 hother
  exact QueueCall.not_breaks_of_meets (hall.get hi hj) hbreaks

variable [DecidableEq K]

/-- What a slot holds depends on its own cell alone. -/
theorem QueueCall.fills_congr
    {call : QueueCall ρ V}
    {answer : Answer ρ}
    {before after : Cells V}
    (hsame : ∀ k, call.key? = some k → after k = before k)
    (hfills : call.Fills answer before) :
    call.Fills answer after := by
  cases call with
  | one query place =>
      obtain ⟨decode, hdecode, row, b, hrows, hrow, hget⟩ := hfills
      refine ⟨decode, hdecode, row, b, hrows, hrow, ?_⟩
      simpa [Place.slot, hsame place.key rfl] using hget
  | many query place =>
      obtain ⟨decode, hdecode, bs, hrows, hget⟩ := hfills
      refine ⟨decode, hdecode, bs, hrows, ?_⟩
      simpa [Place.slot, hsame place.key rfl] using hget
  | exec query place =>
      intro p hp
      cases hp
      have hget := hfills p rfl
      simpa [Place.slot, hsame p.key rfl] using hget

/-- What one more statement in front publishes, the later ones may overwrite. -/
theorem Published.cons
    {before between after : Cells V}
    (hrest : Published queued answers between after)
    (hfills : head.call.Fills answer between)
    (hothers : ∀ k, head.call.key? ≠ some k → between k = before k) :
    Published (head :: queued) (answer :: answers) before after := by
  constructor
  · intro i entry other hentry hanswer hlast
    cases i with
    | zero =>
        cases hentry
        cases hanswer
        refine QueueCall.fills_congr (fun k hk => hrest.others k ?_) hfills
        intro later hlater heq
        obtain ⟨j, hj⟩ := List.getElem?_of_mem hlater
        exact hlast (j + 1) later j.succ_pos hj (heq.trans hk.symm)
    | succ i =>
        refine hrest.last i entry other hentry hanswer ?_
        intro j later hij hlater
        exact hlast (j + 1) later (Nat.succ_lt_succ hij) hlater
  · intro k hk
    rw [hrest.others k fun entry hentry => hk entry (List.mem_cons_of_mem head hentry)]
    exact hothers k (hk head List.mem_cons_self)

end Contracts

section Checking

variable [DecidableEq K]
variable {queued : List (Queued ρ V)} {entries : List (Entry ρ (Cells V))}
variable {answers : List (Answer ρ)}

/-- Answers that pass the check are all as expected, and what they change is published. -/
theorem Batch.check_ok
    {index : Nat}
    {change : Cells V → Cells V}
    (hserved : List.Forall₂ Queued.Served queued entries)
    (hlength : answers.length = entries.length)
    (hcheck : Batch.check index entries answers = .ok change) :
    List.Forall₂ (fun entry answer => entry.call.Meets answer) queued answers ∧
      ∀ cells, Published queued answers cells (change cells) := by
  induction hserved generalizing index answers change with
  | nil =>
      have hanswers : answers = [] := List.length_eq_zero_iff.1 hlength
      subst hanswers
      cases hcheck
      exact ⟨.nil, fun cells => ⟨by simp, fun k _ => rfl⟩⟩
  | @cons head entry queued entries hentry hrest ih =>
      rcases answers with _ | ⟨answer, answers⟩
      · simp at hlength
      cases hresolve : entry.resolve answer with
      | error e => simp [check, hresolve] at hcheck
      | ok first =>
          cases hnext : check (index + 1) entries answers with
          | error e => simp [check, hresolve, hnext] at hcheck
          | ok rest =>
              have hchange : (fun store => rest (first store)) = change := by
                simpa [check, hresolve, hnext] using hcheck
              subst hchange
              obtain ⟨hmeets, hfills⟩ := hentry.2.2 answer first hresolve
              obtain ⟨hall, hpublished⟩ := ih (by simpa using hlength) hnext
              refine ⟨.cons hmeets hall, fun cells => (hpublished (first cells)).cons ?_ ?_⟩
              · exact (hfills cells).1
              · exact (hfills cells).2

/-- Answers that fail the check are reported by the first one that is not as expected. -/
theorem Batch.check_error
    {index : Nat}
    {error : Error}
    (hserved : List.Forall₂ Queued.Served queued entries)
    (hlength : answers.length = entries.length)
    (hcheck : Batch.check index entries answers = .error error) :
    ∃ i source, error = .statement (index + i) source ∧ FirstBreak queued answers i source := by
  induction hserved generalizing index answers with
  | nil => simp [check] at hcheck
  | @cons head entry queued entries hentry hrest ih =>
      rcases answers with _ | ⟨answer, answers⟩
      · simp at hlength
      cases hresolve : entry.resolve answer with
      | error source =>
          have herror : Error.statement index source = error := by
            simpa [check, hresolve] using hcheck
          refine ⟨0, source, herror.symm, ⟨by simp, head, answer, rfl, rfl, ?_⟩⟩
          exact hentry.2.1 answer source hresolve
      | ok first =>
          cases hnext : check (index + 1) entries answers with
          | ok rest => simp [check, hresolve, hnext] at hcheck
          | error e =>
              have herror : e = error := by simpa [check, hresolve, hnext] using hcheck
              subst herror
              obtain ⟨i, source, rfl, hfirst⟩ := ih (by simpa using hlength) hnext
              refine ⟨i + 1, source, by rw [Nat.add_right_comm, Nat.add_assoc], ?_⟩
              exact hfirst.cons (hentry.2.2 answer first hresolve).1

theorem Queued.statements_eq
    (hserved : List.Forall₂ Queued.Served queued entries) :
    entries.map Entry.statement = queued.map Queued.statement := by
  induction hserved with
  | nil => rfl
  | cons hentry _ ih => rw [List.map_cons, List.map_cons, hentry.1, ih]

/-- Answers that resolve are as expected and published. -/
theorem Batch.resolve_ok
    {batch : Batch ρ (Cells V)}
    {change : Cells V → Cells V}
    (hserved : List.Forall₂ Queued.Served queued batch.entries)
    (hresolve : batch.resolve answers = .ok change) :
    List.Forall₂ (fun entry answer => entry.call.Meets answer) queued answers ∧
      ∀ cells, Published queued answers cells (change cells) := by
  unfold Batch.resolve at hresolve
  split at hresolve
  · next hlength => exact check_ok hserved hlength hresolve
  · cases hresolve

/-- Answers that do not resolve are not as expected, and the first failure is reported. -/
theorem Batch.resolve_error
    {batch : Batch ρ (Cells V)}
    {error : Error}
    (hserved : List.Forall₂ Queued.Served queued batch.entries)
    (hresolve : batch.resolve answers = .error error)
    (deadline cutoff : Option Nat)
    (time : Nat) :
    ¬ List.Forall₂ (fun entry answer => entry.call.Meets answer) queued answers ∧
      Reported queued deadline cutoff (some (time, .ok answers)) (.done (.error error)) := by
  unfold Batch.resolve at hresolve
  rw [← hserved.length_eq] at hresolve
  split at hresolve
  · next hlength =>
      obtain ⟨i, source, rfl, hfirst⟩ :=
        check_error hserved (hlength.trans hserved.length_eq) hresolve
      rw [Nat.zero_add]
      exact ⟨hfirst.not_forall₂, .statement time answers hlength i source hfirst⟩
  · next hlength =>
      cases hresolve
      exact ⟨fun hall => hlength hall.length_eq.symm, .count time answers hlength⟩

end Checking

section Running

variable {S : Type} {cutoff : Option Nat} {world : World (List PoolEvent) S}

theorem run_sendBatch_empty
    (ctx : Context)
    {batch : Batch ρ S}
    (hempty : batch.entries = [])
    (send : List Statement → Work (List PoolEvent) S (Answers ρ)) :
    (Driver.sendBatch ctx batch send).run cutoff world = (.done (.ok ()), world) := by
  unfold Driver.sendBatch
  rw [if_pos (by simp [Batch.isEmpty, hempty])]
  rfl

/-- What becomes of what was received for a batch. -/
def Batch.concluded (batch : Batch ρ S) (received : Except Error (Except DriverError
    (List (Answer ρ)))) (left : World (List PoolEvent) S) :
    Ending (Except Error Unit) × World (List PoolEvent) S :=
  match received with
  | .error e => (.done (.error e), left)
  | .ok (.error e) => (.done (.error (.send e)), left)
  | .ok (.ok answers) =>
      match batch.resolve answers with
      | .error e => (.done (.error e), left)
      | .ok change => (.done (.ok ()), { left with store := change left.store })

theorem run_sendBatch_filled
    (pool : AnyPool ρ)
    (ctx : Context)
    {batch : Batch ρ S}
    (hfilled : batch.entries ≠ [])
    (toCall : List Statement → PoolCall)
    (cutoff : Option Nat)
    (world : World (List PoolEvent) S) :
    (Driver.sendBatch ctx batch fun statements => pool.askRows (toCall statements)).run cutoff world
      = Ending.andThen
          ((within ctx .send (pool.askRows (toCall batch.statements))).run cutoff
            (world.record [("statements", toString batch.size)]))
          batch.concluded := by
  unfold Driver.sendBatch
  rw [if_neg (by simpa [Batch.isEmpty] using hfilled)]
  simp only [Work.run_bind, Work.run_change, Ending.andThen_done]
  refine congrArg (Ending.andThen _) ?_
  funext result left
  rcases result with e | e | answers
  · rfl
  · rfl
  · cases hresolve : batch.resolve answers <;> simp [Batch.concluded, hresolve]

/-- Sending a batch that holds statements is one call. Its answers are resolved if it is answered
in time, and otherwise the store stays as it is. -/
theorem run_sendBatch
    (pool : AnyPool ρ)
    (ctx : Context)
    {batch : Batch ρ S}
    (hfilled : batch.entries ≠ [])
    (toCall : List Statement → PoolCall)
    (cutoff : Option Nat)
    (world : World (List PoolEvent) S) :
    let call := toCall batch.statements
    let received :=
      pool.received call (earliest ctx.deadline cutoff) world.driver world.now
    let out := (Driver.sendBatch ctx batch fun statements =>
      pool.askRows (toCall statements)).run cutoff world
    out.2.driver = world.driver ++ call.events received ∧
      match received with
      | none => out.1 = unanswered ctx.deadline cutoff .send ∧ out.2.store = world.store
      | some (_, .error e) => out.1 = .done (.error (.send e)) ∧ out.2.store = world.store
      | some (_, .ok answers) =>
          match batch.resolve answers with
          | .error e => out.1 = .done (.error e) ∧ out.2.store = world.store
          | .ok change => out.1 = .done (.ok ()) ∧ out.2.store = change world.store := by
  intro call received out
  obtain ⟨notes, hrecord⟩ := world.record_eq [("statements", toString batch.size)]
  have hout : out = Ending.andThen _ batch.concluded :=
    run_sendBatch_filled pool ctx hfilled toCall cutoff world
  rw [hrecord, run_within_askRows] at hout
  have hreceived : pool.received call (earliest ctx.deadline cutoff) world.driver world.now
      = received := rfl
  rw [hreceived] at hout
  rcases received with _ | ⟨time, e | answers⟩
  · simp only at hout
    rw [andThen_unanswered fun _ _ => rfl] at hout
    rw [hout]
    exact ⟨rfl, rfl, rfl⟩
  · rw [hout]
    exact ⟨rfl, rfl, rfl⟩
  · simp only [Ending.andThen_done, Batch.concluded] at hout
    cases hresolve : batch.resolve answers with
    | error e =>
        simp only [hresolve] at hout ⊢
        rw [hout]
        exact ⟨rfl, rfl, rfl⟩
    | ok change =>
        simp only [hresolve] at hout ⊢
        rw [hout]
        exact ⟨rfl, rfl, rfl⟩

/-- Sending the entries of accepted calls settles them. -/
theorem sendBatch_settled
    [DecidableEq K]
    (pool : AnyPool ρ)
    (ctx : Context)
    {queued : List (Queued ρ V)}
    (batch : Batch ρ (Cells V))
    (hserved : List.Forall₂ Queued.Served queued batch.entries)
    (hqueued : queued ≠ [])
    (toCall : List Statement → PoolCall)
    (cutoff : Option Nat)
    (world : World (List PoolEvent) (Cells V)) :
    let call := toCall (queued.map Queued.statement)
    let received := pool.received call (earliest ctx.deadline cutoff) world.driver world.now
    let out := (Driver.sendBatch ctx batch fun statements =>
      pool.askRows (toCall statements)).run cutoff world
    out.2.driver = world.driver ++ call.events received ∧
      Settled queued ctx.deadline cutoff received out.1 world.store out.2.store := by
  have hfilled : batch.entries ≠ [] := by
    intro hnil
    rw [hnil] at hserved
    exact hqueued (List.forall₂_nil_right_iff.1 hserved)
  have hstatements : batch.statements = queued.map Queued.statement :=
    Queued.statements_eq hserved
  have hrun := run_sendBatch pool ctx hfilled toCall cutoff world
  rw [hstatements] at hrun
  dsimp only at hrun ⊢
  generalize pool.received (toCall (queued.map Queued.statement))
    (earliest ctx.deadline cutoff) world.driver world.now = received at hrun ⊢
  generalize (Driver.sendBatch ctx batch fun statements =>
    pool.askRows (toCall statements)).run cutoff world = out at hrun ⊢
  obtain ⟨hlog, hends⟩ := hrun
  refine ⟨hlog, ?_⟩
  rcases received with _ | ⟨time, e | answers⟩
  · obtain ⟨hending, hstore⟩ := hends
    rw [hending, hstore]
    refine ⟨?_, by simp, fun _ => ⟨.unanswered, rfl⟩⟩
    simpa using unanswered_ne_ok ctx.deadline cutoff .send ()
  · obtain ⟨hending, hstore⟩ := hends
    rw [hending, hstore]
    exact ⟨by simp, by simp, fun _ => ⟨.refused time e, rfl⟩⟩
  · cases hresolve : batch.resolve answers with
    | error e =>
        simp only [hresolve] at hends
        obtain ⟨hending, hstore⟩ := hends
        obtain ⟨hnot, hreported⟩ :=
          Batch.resolve_error hserved hresolve ctx.deadline cutoff time
        rw [hending, hstore]
        refine ⟨?_, by simp, fun _ => ⟨hreported, rfl⟩⟩
        simpa using hnot
    | ok change =>
        simp only [hresolve] at hends
        obtain ⟨hending, hstore⟩ := hends
        obtain ⟨hall, hpublished⟩ := Batch.resolve_ok hserved hresolve
        rw [hending, hstore]
        refine ⟨?_, ?_, by simp⟩
        · simpa using hall
        · intro later others _ hreceived
          cases hreceived
          exact hpublished world.store

/-- A run fills a batch inside of its span and goes on with the batch if there is one. -/
theorem run_runBatch
    (d : Driver (List PoolEvent) ρ)
    (ctx : Context)
    (queue : Context → Queueing (List PoolEvent) ρ S Unit) :
    let inner := Ending.andThen
      ((queue ctx).fill.run cutoff { world with spans := "run_batch" :: world.spans })
      fun filled left =>
        match filled with
        | .error e => (.done (.error e), left)
        | .ok batch => (Driver.sendBatch ctx batch d.send).run cutoff left
    (d.runBatch ctx queue).run cutoff world
      = (inner.1, { inner.2 with spans := world.spans }) := by
  intro inner
  have hinner : ((queue ctx).fill >>= fun filled =>
      match filled with
      | .error e => return .error e
      | .ok batch => Driver.sendBatch ctx batch d.send).run cutoff
        { world with spans := "run_batch" :: world.spans } = inner := by
    rw [Work.run_bind]
    refine congrArg (Ending.andThen _) ?_
    funext filled left
    cases filled <;> rfl
  unfold Driver.runBatch
  rw [← hinner]
  exact Work.run_inSpan cutoff world "run_batch" _

/-- A batch runs as its contract says, for every callback and every pool. If the callback fails, or
nothing was queued, the pool sees nothing. Otherwise the accepted statements are sent in one call,
outside of transactions whatever the context carries, and settle all or nothing. -/
theorem run_batch_all_or_nothing
    [DecidableEq K]
    (pool : AnyPool ρ)
    (ctx : Context)
    (callback : Context → Callback ρ V)
    (cutoff : Option Nat)
    (world : World (List PoolEvent) (Cells V)) :
    let outcome := (callback ctx).outcome world.now world.store
    let call := PoolCall.send outcome.statements
    let received := pool.received call (earliest ctx.deadline cutoff) world.driver world.now
    let out := (pool.driver.runBatch ctx fun ctx => (callback ctx).run).run cutoff world
    (∀ e, outcome.result = .error e →
      out.1 = .done (.error e) ∧ out.2.driver = world.driver ∧ out.2.store = outcome.cells) ∧
    (outcome.result = .ok () → outcome.queued = [] →
      out.1 = .done (.ok ()) ∧ out.2.driver = world.driver ∧ out.2.store = outcome.cells) ∧
    (outcome.result = .ok () → outcome.queued ≠ [] →
      out.2.driver = world.driver ++ call.events received ∧
      Settled outcome.queued ctx.deadline cutoff received out.1 outcome.cells out.2.store) := by
  intro outcome call received out
  obtain ⟨entries, notes, hserved, hfill⟩ :=
    (callback ctx).run_fill cutoff { world with spans := "run_batch" :: world.spans }
  change _ = (Ending.done ((fun _ => (⟨entries, true⟩ : Batch ρ (Cells V))) <$> outcome.result),
    ({ world with
        spans := "run_batch" :: world.spans, notes := notes, store := outcome.cells } :
      World (List PoolEvent) (Cells V))) at hfill
  have hout : out = _ := run_runBatch pool.driver ctx fun ctx => (callback ctx).run
  rw [hfill, Ending.andThen_done] at hout
  refine ⟨?_, ?_, ?_⟩
  · intro e hresult
    rw [hout, hresult]
    exact ⟨rfl, rfl, rfl⟩
  · intro hresult hqueued
    have hempty : entries = [] := by
      change List.Forall₂ _ outcome.queued entries at hserved
      rw [hqueued] at hserved
      exact List.forall₂_nil_left_iff.1 hserved
    subst hempty
    rw [hresult] at hout
    change out = (((Driver.sendBatch ctx _ pool.driver.send).run cutoff _).1, _) at hout
    rw [run_sendBatch_empty ctx rfl] at hout
    rw [hout]
    exact ⟨rfl, rfl, rfl⟩
  · intro hresult hqueued
    rw [hresult] at hout
    rw [hout]
    exact sendBatch_settled pool ctx ⟨entries, true⟩ hserved hqueued PoolCall.send cutoff
      { world with spans := "run_batch" :: world.spans, notes := notes, store := outcome.cells }

end Running
end QueryBatch
