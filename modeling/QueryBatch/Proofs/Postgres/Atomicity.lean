import QueryBatch.Proofs.Postgres.Alone
import QueryBatch.Proofs.Postgres.Blocks

/-!
# Batches outside of transactions

Several statements are posted between a `BEGIN` and a `COMMIT`. If one of them is reported, it is
the first that failed, and if all of them could be written then no effect of any is ever committed:
a refusal puts the block into its failed state. A statement that cannot be written is not posted, so
nothing tells the server of it, and the others are committed without it.
-/

namespace QueryBatch
namespace Postgres

namespace Line

variable {line later : Line} {statements : List Statement} {index : Nat} {told : List Ran}

/-- What a frame commits after one of its statements failed: nothing, or all that could be written,
and that only if one could not. -/
theorem committed_of_failed_frame
    {reply : Reply}
    (hquiet : line.Quiet)
    (hgrows : line.Grows (.script "BEGIN" :: (writes statements ++ [.script "COMMIT"])) later)
    (htold : later.told.drop line.posted.length = ⟨.script "BEGIN", .accepted reply⟩ :: told)
    (hfails : FailsAt index statements told) :
    ((∀ s ∈ statements, writable s = true) →
        later.session.committed = line.session.committed) ∧
      (later.session.committed = line.session.committed ∨
        later.session.committed
          = line.session.committed ++ texts (statements.filter writable)) := by
  obtain ⟨hnone, ran, hran, hsome, hrequests⟩ := hquiet.stretch hgrows htold
  have hstretch : ran.map Ran.request <+: writes statements ++ [.script "COMMIT"] :=
    ⟨later.inbox, (List.cons.inj hrequests).2⟩
  simp only [committed_session, hran]
  rcases stretch_cases hstretch with honly | ⟨block, last, rfl, hblock, hlast⟩
  · rw [replay_block hnone honly]
    exact ⟨fun _ => rfl, .inl rfl⟩
  · have honly : OnlyStatements block := ⟨_, hblock⟩
    rw [committed_after_commit hnone honly hlast]
    refine ⟨fun hwrites => ?_, ?_⟩
    · obtain ⟨before, failed, after, ran, rest, rfl, -, rfl, -, hfailed⟩ := hfails
      obtain ⟨more, rfl⟩ := hfailed.resolve_left (by simp [hwrites failed (by simp)])
      have hmem : ⟨requestOf failed, .refused⟩ ∈ block ++ [last] := hsome.subset (by simp)
      have hrefused : ⟨requestOf failed, .refused⟩ ∈ block := by
        rcases List.mem_append.mp hmem with hmem | hmem
        · exact hmem
        · obtain rfl := List.mem_singleton.mp hmem
          simp [requestOf] at hlast
      have hall : block.all Ran.accepted = false :=
        List.all_eq_false.mpr ⟨_, hrefused, by simp [Ran.accepted]⟩
      simp [hall]
    · by_cases hkept : (last.accepted && block.all Ran.accepted) = true
      · right
        rw [if_pos hkept, effects_of_accepted hblock (Bool.and_eq_true_iff.mp hkept).2]
      · left
        rw [if_neg hkept, List.append_nil]

end Line

section Batches

variable {S : Type} {world left : World (State Wire) S} {cutoff : Option Nat}
variable {statements : List Statement} {index : Nat} {message : String}

/-- What a batch of several statements leaves that reported the one at an index: the first that
failed. The batch was sent on one connection, which was quiet then. If all statements could be
written, no effect of any is ever committed; otherwise either none is or all are that could be. -/
structure BatchFailed (statements : List Statement) (index : Nat) (connection : Nat) (start : Line)
    (world left : World (State Wire) S) : Prop where
  before : (world.driver.network.line connection).Grows [] start
  quiet : start.Quiet
  elsewhere : ∀ other, other ≠ connection →
    (world.driver.network.line other).Grows [] (left.driver.network.line other)
  first : FailsAt index statements
    ((left.driver.network.line connection).told.drop (start.posted.length + 1))
  undone : (∀ s ∈ statements, writable s = true) → ∀ later,
    (left.driver.network.line connection).Grows [] later →
      later.session.committed = start.session.committed
  kept : ∀ later, (left.driver.network.line connection).Grows [] later →
    later.session.committed = start.session.committed ∨
      later.session.committed
        = start.session.committed ++ texts (statements.filter writable)

/-- A batch that reports a statement, on a pool in any state that it can come to, reports the first
that failed, and all others are undone with it if it was the server that refused it. -/
theorem failed_batch_is_undone_if_written
    (hreached : Reached world.driver)
    (hmany : 1 < statements.length)
    (hrun : (Wire.network.driver.send statements).run cutoff world
      = (.done (.error (.statement index message)), left)) :
    ∃ connection start, BatchFailed statements index connection start world left := by
  obtain ⟨stakes, hsound⟩ := hreached.sound
  have hends := (ends_send statements hsound cutoff).of_done hrun
  rcases hends with ⟨source, hsource, -⟩ | ⟨live, start, hquiet, hstart, hpiped, -, hposts⟩
  · cases hsource
  simp only [hmany, decide_true] at hpiped
  obtain ⟨hgrows, reply, told, htold, hfails⟩ := hpiped.failsAt
  -- whatever happens afterwards, what was told stays and the frame is not posted again
  have hcommitted := fun later
      (hlater : (left.driver.network.line live.connection).Grows [] later) =>
    let ⟨more, hmore⟩ := hlater.told_drop htold
    Line.committed_of_failed_frame hquiet (hgrows.trans_still hlater) hmore (hfails.append more)
  exact ⟨live.connection, start, hstart, hquiet, hposts.still,
    by rw [← List.drop_drop, htold]; exact hfails,
    fun hwrites later hlater => (hcommitted later hlater).1 hwrites,
    fun later hlater => (hcommitted later hlater).2⟩

end Batches

section Runs

/-- A statement without parameters, for its effect. -/
def effect (text : String) : Statement := ⟨Sql.positional text [], .exec⟩

/-- A batch whose second statement the server refuses. -/
def refusedBatch : World (State Wire) Unit :=
  fresh ()
    [none, none, some (.accepted {}), some (.accepted {}), some .refused, some (.accepted {})]

theorem failed_batch_is_undone_after_refusal :
    Reached refusedBatch.driver ∧ 1 < [effect "INSERT INTO a", effect "INSERT INTO b"].length ∧
      ∃ left, (Wire.network.driver.send [effect "INSERT INTO a", effect "INSERT INTO b"]).run none
          refusedBatch = (.done (.error (.statement 1 "db error")), left) ∧
        ∃ connection start,
          BatchFailed [effect "INSERT INTO a", effect "INSERT INTO b"] 1 connection start
            refusedBatch left := by
  have hdone : ((Wire.network.driver.send [effect "INSERT INTO a", effect "INSERT INTO b"]).run none
      refusedBatch).1 = .done (.error (.statement 1 "db error")) :=
    done_of_error? (by decide +kernel)
  have hreached : Reached refusedBatch.driver := reached_fresh _ _
  have hmany : 1 < [effect "INSERT INTO a", effect "INSERT INTO b"].length := by simp
  have hrun := run_eq_of_done hdone
  exact ⟨hreached, hmany, _, hrun, failed_batch_is_undone_if_written hreached hmany hrun⟩

/-- A batch of which the server accepts what it gets. -/
def acceptedBatch : World (State Wire) Unit :=
  fresh () [none, none, some (.accepted {}), some (.accepted {}), some (.accepted {})]

/-- If the second statement cannot be written, it is reported and the one before it is committed. -/
theorem failed_batch_commits_what_was_written :
    Reached acceptedBatch.driver ∧
      (acceptedBatch.driver.network.line 0).session.committed = [] ∧
      ∃ left, (Wire.network.driver.send
          [effect "INSERT INTO a", effect "INSERT\x00 INTO b"]).run none acceptedBatch
            = (.done (.error (.statement 1 "error parsing response from server")), left) ∧
        (left.driver.network.line 0).session.committed = ["INSERT INTO a"] := by
  have hdone : ((Wire.network.driver.send
      [effect "INSERT INTO a", effect "INSERT\x00 INTO b"]).run none acceptedBatch).1
        = .done (.error (.statement 1 "error parsing response from server")) :=
    done_of_error? (by decide +kernel)
  have hcommitted : (((Wire.network.driver.send
      [effect "INSERT INTO a", effect "INSERT\x00 INTO b"]).run none
        acceptedBatch).2.driver.network.line 0).session.committed = ["INSERT INTO a"] := by
    decide +kernel
  have hrun := run_eq_of_done hdone
  exact ⟨reached_fresh _ _, rfl, _, hrun, hcommitted⟩

end Runs
end Postgres
end QueryBatch
