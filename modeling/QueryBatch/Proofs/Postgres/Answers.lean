import QueryBatch.Proofs.Postgres.CheckOut

/-!
# What answers tell of a line

Statements that can be written are posted in order, so the reply to each of them stands at a
position that is known in advance (`numbered`). Answers therefore tell of a whole stretch of a line:
if there are answers to all statements, all were posted and accepted in a row; if one statement is
reported, all before it were, and that one could not be written or was refused.
-/

namespace QueryBatch
namespace Postgres

section Defs

/-- The request of a statement. -/
def requestOf (statement : Statement) : Request := .statement statement.sql

/-- Whether a statement can be written. -/
def writable (statement : Statement) : Bool := (unwritable? (requestOf statement)).isNone

/-- The requests of the statements that can be written, in order. -/
def writes (statements : List Statement) : List Request :=
  (statements.filter writable).map requestOf

/-- What was run is exactly some statements in order, all accepted. -/
def Accepts : List Statement → List Ran → Prop :=
  List.Forall₂ fun statement ran => ∃ reply, ran = ⟨requestOf statement, .accepted reply⟩

/-- Of statements whose replies were told in order, the one at an index is the first that failed:
those before it were accepted, and it cannot be written or was refused. -/
def FailsAt (index : Nat) (statements : List Statement) (told : List Ran) : Prop :=
  ∃ before failed after ran rest, statements = before ++ failed :: after ∧ before.length = index ∧
    told = ran ++ rest ∧ Accepts before ran ∧
      (writable failed = false ∨ ∃ more, rest = ⟨requestOf failed, .refused⟩ :: more)

/-- Statements as they are posted from a position on. -/
def numbered : Nat → List Statement → List (StatementKind × Posted)
  | _, [] => []
  | position, statement :: rest =>
      match unwritable? (requestOf statement) with
      | some fault => (statement.kind, .error fault) :: numbered position rest
      | none => (statement.kind, .ok position) :: numbered (position + 1) rest

end Defs

section Writing

variable {statement : Statement} {rest : List Statement}

theorem writes_cons_of_writable
    (hwritable : unwritable? (requestOf statement) = none) :
    writes (statement :: rest) = requestOf statement :: writes rest := by
  simp [writes, writable, hwritable]

theorem writes_cons_of_unwritable
    {fault : Fault}
    (hunwritable : unwritable? (requestOf statement) = some fault) :
    writes (statement :: rest) = writes rest := by
  simp [writes, writable, hunwritable]

theorem ne_closed_of_unwritable
    {request : Request}
    {fault : Fault}
    (hunwritable : unwritable? request = some fault) :
    fault ≠ .closed := by
  cases request <;> simp only [unwritable?] at hunwritable <;> split at hunwritable <;>
    simp_all [eq_comm]

theorem FailsAt.cons
    {index : Nat}
    {told : List Ran}
    (hfails : FailsAt index rest told)
    (reply : Reply) :
    FailsAt (index + 1) (statement :: rest) (⟨requestOf statement, .accepted reply⟩ :: told) := by
  obtain ⟨before, failed, after, ran, left, rfl, rfl, rfl, haccepts, hfailed⟩ := hfails
  exact ⟨statement :: before, failed, after, ⟨requestOf statement, .accepted reply⟩ :: ran, left,
    rfl, rfl, rfl, .cons ⟨reply, rfl⟩ haccepts, hfailed⟩

/-- What was told later does not matter. -/
theorem FailsAt.append
    {index : Nat}
    {statements : List Statement}
    {told : List Ran}
    (hfails : FailsAt index statements told)
    (more : List Ran) :
    FailsAt index statements (told ++ more) := by
  obtain ⟨before, failed, after, ran, left, hsplit, hindex, rfl, haccepts, hfailed⟩ := hfails
  refine ⟨before, failed, after, ran, left ++ more, hsplit, hindex, by simp, haccepts, ?_⟩
  exact hfailed.imp_right fun ⟨last, hlast⟩ => ⟨last ++ more, by simp [hlast]⟩

end Writing

namespace Line

variable {line later : Line} {statements : List Statement} {position : Nat}

theorem post_post
    (first second : List Request) :
    (line.post first).post second = line.post (first ++ second) := by
  simp [post]

theorem submit_up
    {request : Request}
    (hwritable : unwritable? request = none)
    (hup : line.up = true) :
    line.submit request = (.ok line.posted.length, line.post [request]) := by
  simp [submit, hwritable, hup]

/-- On a connection that is not lost, statements are posted under numbers in a row. -/
theorem submitAll_up
    (statements : List Statement)
    (hup : line.up = true) :
    line.submitAll statements
      = (numbered line.posted.length statements, line.post (writes statements)) := by
  induction statements generalizing line with
  | nil => simp [submitAll, numbered, writes, post]
  | cons statement rest ih =>
      unfold submitAll numbered
      cases hwritable : unwritable? (requestOf statement) with
      | some fault =>
          have hsubmit : line.submit (.statement statement.sql) = (.error fault, line) := by
            unfold submit
            rw [show unwritable? (.statement statement.sql) = some fault from hwritable]
          rw [writes_cons_of_unwritable hwritable]
          simp only [hsubmit, ih hup]
      | none =>
          have hsubmit : line.submit (.statement statement.sql) = _ := submit_up hwritable hup
          rw [writes_cons_of_writable hwritable]
          have hrest := @ih (line.post [.statement statement.sql]) hup
          simp only [hsubmit, hrest, post_post, posted_post, List.length_append,
            List.length_singleton]
          rfl

/-- On a connection that is lost nothing is posted. -/
theorem submitAll_lost
    (statements : List Statement)
    (hlost : line.up = false) :
    (line.submitAll statements).2 = line ∧
      ∀ posted ∈ (line.submitAll statements).1, ∃ fault, posted.2 = .error fault := by
  induction statements with
  | nil => simp [submitAll]
  | cons statement rest ih =>
      unfold submitAll
      rcases line.submit_cases (.statement statement.sql) with
        ⟨fault, -, hsubmit⟩ | ⟨-, -, hsubmit⟩ | ⟨-, hup, -⟩
      · simpa [hsubmit] using ih
      · simpa [hsubmit] using ih
      · simp [hup] at hlost

/-- What the client has learned of a request on a line was told, unless the line was lost. -/
theorem told_next
    {request : Request}
    {rest : List Request}
    {result : Result}
    (hposted : line.posted.drop position = request :: rest)
    (hlearned : line.Learned (.ok position) result) :
    (∃ reply, result = .ok reply ∧
        line.told.drop position = ⟨request, .accepted reply⟩ :: line.told.drop (position + 1)) ∨
      (result = .error .refused ∧
        line.told.drop position = ⟨request, .refused⟩ :: line.told.drop (position + 1)) ∨
      result = .error .closed := by
  have hdrop : ∀ {ran : Ran}, line.told[position]? = some ran →
      ran.request = request ∧ line.told.drop position = ran :: line.told.drop (position + 1) := by
    intro ran htold
    obtain ⟨hlt, hget⟩ := List.getElem?_eq_some_iff.mp htold
    refine ⟨?_, by rw [List.drop_eq_getElem_cons hlt, hget]⟩
    have hrequest := posted_of_told htold
    rw [← List.head?_drop, hposted] at hrequest
    exact (Option.some.inj hrequest).symm
  cases result with
  | ok reply =>
      obtain ⟨other, htold⟩ := told_of_accepted hlearned
      obtain ⟨rfl, hstretch⟩ := hdrop htold
      exact .inl ⟨reply, rfl, hstretch⟩
  | error fault =>
      rcases told_of_fault hlearned with ⟨rfl, other, htold⟩ | ⟨rfl, -⟩
      · obtain ⟨rfl, hstretch⟩ := hdrop htold
        exact .inr (.inl ⟨rfl, hstretch⟩)
      · exact .inr (.inr rfl)

/-- Answers to statements tell that all were written and accepted in a row, or which one failed
first. -/
theorem told_of_gatherFrom
    {results : List (StatementKind × Result)}
    {tail : List Request}
    (hposted : line.posted.drop position = writes statements ++ tail)
    (hlearned : line.LearnedAll (numbered position statements) results)
    (start : Nat) :
    (∀ answers, gatherFrom start results = .ok answers → (∀ s ∈ statements, writable s = true) ∧
      ∃ ran, Accepts statements ran ∧ ran <+: line.told.drop position) ∧
    ∀ index message, gatherFrom start results = .error (.statement index message) →
      start ≤ index ∧ FailsAt (index - start) statements (line.told.drop position) := by
  induction statements generalizing position results start with
  | nil =>
      obtain rfl : results = [] := List.forall₂_nil_left_iff.mp hlearned
      exact ⟨fun _ _ => ⟨by simp, [], .nil, List.nil_prefix⟩, fun _ _ h => nomatch h⟩
  | cons statement rest ih =>
      unfold numbered at hlearned
      cases hwritable : unwritable? (requestOf statement) with
      | some fault =>
          rw [hwritable] at hlearned
          obtain ⟨⟨kind, result⟩, results, ⟨-, rfl⟩, -, rfl⟩ :=
            List.forall₂_cons_left_iff.mp hlearned
          refine ⟨fun _ h => (nomatch h), fun index message hgather => ?_⟩
          simp only [gatherFrom, statementError, if_neg (ne_closed_of_unwritable hwritable),
            Except.error.injEq, DriverError.statement.injEq] at hgather
          obtain ⟨rfl, -⟩ := hgather
          have hfailed : writable statement = false := by simp [writable, hwritable]
          exact ⟨le_rfl, [], statement, rest, [], _, rfl, by simp, rfl, .nil, .inl hfailed⟩
      | none =>
          rw [hwritable] at hlearned
          obtain ⟨⟨kind, result⟩, results, ⟨-, hfirst⟩, hrest, rfl⟩ :=
            List.forall₂_cons_left_iff.mp hlearned
          rw [writes_cons_of_writable hwritable, List.cons_append] at hposted
          rcases told_next hposted hfirst with ⟨reply, rfl, htold⟩ | ⟨rfl, htold⟩ | rfl
          · have hposted' : line.posted.drop (position + 1) = writes rest ++ tail := by
              rw [← List.tail_drop, hposted, List.tail_cons]
            obtain ⟨hok, herror⟩ := ih hposted' hrest (start + 1)
            rw [htold]
            unfold gatherFrom
            cases hgather : gatherFrom (start + 1) results with
            | ok answers =>
                refine ⟨fun _ _ => ?_, fun _ _ h => nomatch h⟩
                obtain ⟨hwrites, ran, haccepts, hran⟩ := hok answers hgather
                refine ⟨?_, _, .cons ⟨reply, rfl⟩ haccepts, (List.prefix_cons_inj _).mpr hran⟩
                simpa [writable, hwritable] using hwrites
            | error e =>
                refine ⟨fun _ h => (nomatch h), fun index message hmessage => ?_⟩
                obtain rfl := Except.error.inj hmessage
                obtain ⟨hle, hfails⟩ := herror index message hgather
                refine ⟨by omega, ?_⟩
                have hindex : index - start = index - (start + 1) + 1 := by omega
                rw [hindex]
                exact hfails.cons reply
          · refine ⟨fun _ h => (nomatch h), fun index message hgather => ?_⟩
            simp only [gatherFrom, statementError, reduceCtorEq, if_false, Except.error.injEq,
              DriverError.statement.injEq] at hgather
            obtain ⟨rfl, -⟩ := hgather
            exact ⟨le_rfl, [], statement, rest, [], _, rfl, by simp, rfl, .nil, .inr ⟨_, htold⟩⟩
          · exact ⟨fun _ h => (nomatch h), by simp [gatherFrom, statementError]⟩

/-- Of statements in a transaction those that can be written are posted, unless the line is lost. -/
theorem pipelined_transaction
    (line : Line)
    (statements : List Statement) :
    ∃ sent : List Statement, sent.Sublist statements ∧
      line.pipelined statements false = line.post (sent.map requestOf) := by
  change ∃ sent, _ ∧ (line.submitAll statements).2 = _
  cases hup : line.up with
  | true => exact ⟨_, List.filter_sublist, by rw [submitAll_up statements hup]; rfl⟩
  | false =>
      refine ⟨[], List.nil_sublist _, ?_⟩
      rw [(submitAll_lost statements hup).1]
      simp [post]

/-- Answers to all statements of a transaction tell that all were posted and accepted in a row. -/
theorem Piped.accepted
    {answers : List (Answer Row)}
    (hpiped : line.Piped statements false later (.ok answers)) :
    line.Grows (statements.map requestOf) later ∧
      ∃ ran, Accepts statements ran ∧ ran <+: later.told.drop line.posted.length := by
  obtain ⟨hgrows, begun, results, committed, hbegun, hresults, hcommitted, hgather⟩ := hpiped
  change (line.submitAll statements).2.Grows [] later at hgrows
  change later.LearnedAll (line.submitAll statements).1 results at hresults
  have hgathered : gatherFrom 0 results = .ok answers := by
    cases begun <;> cases committed <;>
      simp only [submitFrame, Bool.false_eq_true, if_false, LearnedFrame] at hbegun hcommitted
    cases hfrom : gatherFrom 0 results <;> simp_all [gather, frameError]
  cases hup : line.up with
  | true =>
      rw [submitAll_up statements hup] at hgrows hresults
      have hposted := (Grows.post line (writes statements)).trans_still hgrows
      have hstretch : later.posted.drop line.posted.length = writes statements ++ [] := by
        simp [hposted.posted]
      obtain ⟨hwrites, htold⟩ := (told_of_gatherFrom hstretch hresults 0).1 answers hgathered
      have hall : writes statements = statements.map requestOf := by
        rw [writes, List.filter_eq_self.mpr hwrites]
      exact ⟨hall ▸ hposted, htold⟩
  | false =>
      obtain ⟨hsame, herrors⟩ := submitAll_lost statements hup
      cases statements with
      | nil => exact ⟨hsame ▸ hgrows, [], .nil, List.nil_prefix⟩
      | cons statement rest =>
          obtain ⟨first, results, ⟨-, hfirst⟩, -, rfl⟩ := List.forall₂_cons_left_iff.mp hresults
          obtain ⟨fault, hfault⟩ := herrors _ List.mem_cons_self
          rw [hfault] at hfirst
          obtain ⟨kind, result⟩ := first
          obtain rfl : result = .error fault := hfirst
          cases hgathered

/-- A statement that is reported of a frame is the first that failed, after an accepted `BEGIN`, and
all others that can be written were posted too. -/
theorem Piped.failsAt
    {index : Nat}
    {message : String}
    (hpiped : line.Piped statements true later (.error (.statement index message))) :
    line.Grows (.script "BEGIN" :: (writes statements ++ [.script "COMMIT"])) later ∧
      ∃ reply told,
        later.told.drop line.posted.length = ⟨.script "BEGIN", .accepted reply⟩ :: told ∧
          FailsAt index statements told := by
  obtain ⟨hgrows, begun, results, committed, hbegun, hresults, -, hgather⟩ := hpiped
  -- a failed frame is no statement's fault
  obtain ⟨reply, rfl⟩ : ∃ reply, begun = some (.ok reply) := by
    rcases begun with _ | fault | reply
    · cases hbegun
    · cases hgather
    · exact ⟨reply, rfl⟩
  have hgathered : gatherFrom 0 results = .error (.statement index message) := by
    cases hfrom : gatherFrom 0 results with
    | error e => simpa [gather, frameError, hfrom, eq_comm] using hgather
    | ok answers =>
      rcases committed with _ | fault | reply <;> simp [gather, frameError, hfrom] at hgather
  have hbegin : unwritable? (.script "BEGIN") = none := by decide
  have hcommit : unwritable? (.script "COMMIT") = none := by decide
  change later.Learned (line.submit (.script "BEGIN")).1 (.ok reply) at hbegun
  have hup : line.up = true := by
    by_contra hlost
    simp [submit, hbegin, hlost, Learned] at hbegun
  have hclosing :
      (line.post ([.script "BEGIN"] ++ writes statements)).submit (.script "COMMIT") = _ :=
    submit_up hcommit hup
  simp only [submitFrame, if_true, submit_up hbegin hup,
    submitAll_up statements (up_post.trans hup), post_post, hclosing] at hgrows hbegun hresults
  have hposted := (Grows.post line _).trans_still hgrows
  have hstretch : later.posted.drop line.posted.length
      = .script "BEGIN" :: (writes statements ++ [.script "COMMIT"]) := by
    simp [hposted.posted]
  have hrest : later.posted.drop (line.post [.script "BEGIN"]).posted.length
      = writes statements ++ [.script "COMMIT"] := by
    simp [hposted.posted]
  refine ⟨by simpa using hposted, ?_⟩
  rcases told_next hstretch hbegun with ⟨other, -, htold⟩ | ⟨hrefused, -⟩ | hclosed
  · refine ⟨other, _, htold, ?_⟩
    have hfails := ((told_of_gatherFrom hrest hresults 0).2 index message hgathered).2
    simpa using hfails
  · cases hrefused
  · cases hclosed

end Line
end Postgres
end QueryBatch
