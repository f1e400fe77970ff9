import QueryBatch.Proofs.Batch.Ends
import QueryBatch.Proofs.Batch.Nesting

/-!
# Batches that get an answer to each statement

A batch can only be resolved if there are as many answers as statements. A driver that answers a
list of statements either with an error or with one answer to each (`Driver.AnswersEach`) never
makes a batch fail for their number: an error about it, alone or joined to that of a rollback, is
one that the callback itself failed with.
-/

namespace QueryBatch

variable {σ ρ S α : Type}

section Defs

/-- An error is about the number of answers to a batch, or joins the failure of a rollback to one
that is. -/
def Error.isMiscount : Error → Bool
  | .resultCount _ _ => true
  | .rollback cause _ => cause.isMiscount
  | _ => false

/-- Statements are answered with an error, or with as many answers. -/
def AnswersTo (statements : List Statement) (answers : Answers ρ) : Prop :=
  ∀ list, answers = .ok list → list.length = statements.length

/-- A driver answers each of the statements that it is sent, however a run of it goes. -/
structure Driver.AnswersEach (d : Driver σ ρ) : Prop where
  send : ∀ {S : Type} (statements : List Statement) (cutoff : Option Nat) (world : World σ S),
    Ends (fun answers _ => AnswersTo statements answers) (fun _ => True)
      ((d.send statements).run cutoff world)
  sendIn : ∀ {S : Type} (tx : Nat) (statements : List Statement) (cutoff : Option Nat)
    (world : World σ S),
    Ends (fun answers _ => AnswersTo statements answers) (fun _ => True)
      ((d.sendIn tx statements).run cutoff world)

/-- A failure has nothing to do with the number of answers. -/
def Counted : Except Error α → Prop
  | .ok _ => True
  | .error e => e.isMiscount = false

/-- A failure has nothing to do with the number of answers, or is one of the callback. -/
def CountedOrQueued (queue : Context → Queueing σ ρ S Unit) : Except Error α → Prop
  | .ok _ => True
  | .error e => e.isMiscount = false ∨ FailsWith queue e

/-- A failure has nothing to do with the number of answers, or is one of the callback, to which the
failure of a rollback may be joined. -/
def CountedOrJoined (queue : Context → Queueing σ ρ S Unit) : Except Error α → Prop
  | .ok _ => True
  | .error e => e.isMiscount = false ∨
      ∃ cause, FailsWith queue cause ∧ (e = cause ∨ ∃ why, e = .rollback cause why)

end Defs

section Sending

variable {cutoff : Option Nat} {world : World σ S}

theorem ends_anyhow
    {out : Ending α × World σ S} :
    Ends (fun _ _ => True) (fun _ => True) out := by
  rcases out with ⟨_ | _ | _, left⟩ <;> trivial

/-- As many answers as statements do not fail for their number. -/
theorem isMiscount_of_resolve
    {batch : Batch ρ S}
    {answers : List (Answer ρ)}
    {e : Error}
    (hlength : answers.length = batch.statements.length)
    (hresolved : batch.resolve answers = .error e) :
    e.isMiscount = false := by
  have hentries : answers.length = batch.entries.length := by
    rw [hlength, Batch.statements, List.length_map]
  rw [Batch.resolve, if_pos hentries] at hresolved
  obtain ⟨index, source, rfl⟩ := statement_of_check hresolved
  rfl

theorem ends_sendBatch_counted
    (ctx : Context)
    (batch : Batch ρ S)
    {send : List Statement → Work σ S (Answers ρ)}
    (hsend : ∀ cutoff world, Ends (fun answers _ => AnswersTo batch.statements answers)
      (fun _ => True) ((send batch.statements).run cutoff world)) :
    Ends (fun result _ => Counted result) (fun _ => True)
      ((Driver.sendBatch ctx batch send).run cutoff world) := by
  unfold Driver.sendBatch
  split
  · trivial
  · apply ends_bind
    rw [Work.run_change, ends_done]
    apply ends_bind
    apply ends_until?
    refine (hsend _ _).imp ?_ fun _ _ => ⟨rfl, trivial⟩
    rintro (refused | answers) left hanswers
    · rfl
    · dsimp only
      cases hresolve : batch.resolve answers with
      | error source => exact isMiscount_of_resolve (hanswers answers rfl) hresolve
      | ok change => trivial

/-- Filling a batch and sending it fails for the number of answers only if the callback does. -/
theorem ends_filled_counted
    {queue : Context → Queueing σ ρ S Unit}
    (ctx : Context)
    {send : List Statement → Work σ S (Answers ρ)}
    {next : Except Error (Batch ρ S) → Work σ S (Except Error Unit)}
    (hsend : ∀ statements cutoff world, Ends (fun answers _ => AnswersTo statements answers)
      (fun _ => True) ((send statements).run cutoff world))
    (herror : ∀ e, next (.error e) = pure (.error e))
    (hok : ∀ batch, next (.ok batch) = Driver.sendBatch ctx batch send) :
    Ends (fun result _ => CountedOrQueued queue result) (fun _ => True)
      (((queue ctx).fill >>= next).run cutoff world) := by
  apply ends_bind
  rw [Queueing.run_fill]
  rcases hqueue : (queue ctx).runOn (Batch.empty, world) with ⟨refused | ⟨⟩, batch, left⟩
  · change Ends _ _ ((next (.error refused)).run cutoff left)
    rw [herror]
    exact .inr ⟨ctx, world, congrArg Prod.fst hqueue⟩
  · change Ends _ _ ((next (.ok batch.close)).run cutoff left)
    rw [hok]
    refine (ends_sendBatch_counted ctx batch.close (hsend _)).imp ?_ fun _ _ => trivial
    rintro (e | ⟨⟩) left hcounted
    · exact .inl hcounted
    · trivial

end Sending

section Owning

variable {cutoff : Option Nat} {world : World σ S}

theorem ends_commitOwned_counted
    (d : Driver σ ρ)
    (ctx : Context)
    (tx : Nat) :
    Ends (fun result _ => Counted result) (fun _ => True)
      ((d.commitOwned ctx tx).run cutoff world) := by
  unfold Driver.commitOwned
  apply ends_bind
  apply ends_until?
  refine ends_anyhow.imp ?_ fun _ _ => ⟨rfl, trivial⟩
  rintro (refused | ⟨⟩) left -
  · cases refused with
    | txClosed => trivial
    | statement index source => rfl
    | connection source => rfl
  · trivial

/-- A rollback leaves the failure before it as it is, or is joined to it. -/
theorem ends_rollbackOwned_joined
    (d : Driver σ ρ)
    (ctx : Context)
    (tx : Nat)
    (cause : Error) :
    Ends (fun e _ => e = cause ∨ ∃ why, e = .rollback cause why) (fun _ => True)
      ((d.rollbackOwned ctx tx cause).run cutoff world) := by
  unfold Driver.rollbackOwned withinGrace
  apply ends_bind
  rw [Work.run_change, ends_done]
  apply ends_bind
  apply ends_bind
  rw [Work.run_now, ends_done]
  apply ends_until?
  refine ends_anyhow.imp ?_ fun _ _ => ⟨.inr ⟨_, rfl⟩, trivial⟩
  rintro (refused | ⟨⟩) left -
  · cases refused with
    | txClosed => exact .inl rfl
    | statement index source => exact .inr ⟨_, rfl⟩
    | connection source => exact .inr ⟨_, rfl⟩
  · exact .inl rfl

/-- An owner of a transaction only passes on what its body says about the number of answers. -/
theorem ends_transact_counted
    (d : Driver σ ρ)
    {queue : Context → Queueing σ ρ S Unit}
    {body : Context → Nat → Work σ S (Except Error α)}
    (ctx : Context)
    (hbody : ∀ ctx tx cutoff world, Ends (fun result _ => CountedOrQueued queue result)
      (fun _ => True) ((body ctx tx).run cutoff world)) :
    Ends (fun result _ => CountedOrJoined queue result) (fun _ => True)
      ((d.transact ctx body).run cutoff world) := by
  unfold Driver.transact Driver.withTransaction
  cases ctx.tx with
  | some tx =>
      refine (hbody ctx tx cutoff world).imp ?_ fun _ _ => trivial
      rintro (e | a) left hbody
      · exact hbody.imp_right fun hqueued => ⟨e, hqueued, .inl rfl⟩
      · trivial
  | none =>
      apply ends_bind
      apply ends_until?
      refine ends_anyhow.imp ?_ fun _ _ => ⟨.inl rfl, trivial⟩
      rintro (refused | tx) left -
      · exact .inl rfl
      · apply ends_bind
        rw [Work.run_change, ends_done]
        apply ends_leaving
        apply ends_bind
        refine (hbody _ _ _ _).imp ?_ fun _ _ => trivial
        rintro (cause | a) left hcause
        · apply ends_bind
          refine (ends_rollbackOwned_joined d _ tx cause).imp ?_ fun _ _ => trivial
          intro reported left hreported
          rcases hcause with hcounted | hqueued
          · left
            rcases hreported with rfl | ⟨why, rfl⟩ <;> exact hcounted
          · exact .inr ⟨cause, hqueued, hreported⟩
        · apply ends_bind
          refine (ends_commitOwned_counted d _ tx).imp ?_ fun _ _ => trivial
          rintro (e | ⟨⟩) left hcounted
          · exact .inl hcounted
          · trivial

end Owning

namespace Driver.AnswersEach

variable {d : Driver σ ρ} {cutoff : Option Nat} {world : World σ S}

theorem ends_runBatch
    (heach : d.AnswersEach)
    (ctx : Context)
    (queue : Context → Queueing σ ρ S Unit) :
    Ends (fun result _ => CountedOrQueued queue result) (fun _ => True)
      ((d.runBatch ctx queue).run cutoff world) := by
  unfold Driver.runBatch
  apply ends_inSpan
  exact ends_filled_counted ctx heach.send (fun _ => rfl) fun _ => rfl

theorem ends_sendThrough
    (heach : d.AnswersEach)
    (tx : Nat)
    (statements : List Statement) :
    Ends (fun answers _ => AnswersTo statements answers) (fun _ => True)
      ((d.sendThrough tx statements).run cutoff world) := by
  unfold Driver.sendThrough Driver.isClosed
  apply ends_bind
  rw [Work.run_look, ends_done]
  split
  · exact fun _ hok => (nomatch hok)
  · exact heach.sendIn tx statements _ _

theorem ends_runBatchInTransaction
    (heach : d.AnswersEach)
    (ctx : Context)
    (queue : Context → Queueing σ ρ S Unit) :
    Ends (fun result _ => CountedOrJoined queue result) (fun _ => True)
      ((d.runBatchInTransaction ctx queue).run cutoff world) := by
  unfold Driver.runBatchInTransaction
  apply ends_inSpan
  refine ends_transact_counted d ctx fun ctx tx cutoff world => ?_
  exact ends_filled_counted ctx (fun statements _ _ => heach.ends_sendThrough tx statements)
    (fun _ => rfl) fun _ => rfl

end Driver.AnswersEach
end QueryBatch
