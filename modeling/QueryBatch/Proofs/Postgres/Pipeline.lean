import QueryBatch.Proofs.Batch.Counts
import QueryBatch.Proofs.Postgres.Answers

/-!
# What a pipeline makes of the responses

A pipeline posts all its requests before it waits for the first response, and some of the responses
may be faults. `Task.Returns` speaks of every course that a call can take: each wait may end with
any answer and in any world. It also tells what the waits ended with, so that each result of a
pipeline can be traced back to the ticket of its own request (`Heard`).

Which answer such responses lead to is said by `Responses.Concludes`, which does not mention how it
is found: the first fault counts, `BEGIN` before the statements and these before `COMMIT`. Without
one there is an answer to each statement, so a batch never fails for their number. Responses lead to
one answer only (`Responses.concludes_iff`).
-/

namespace QueryBatch
namespace Postgres

variable {ν S α β : Type}

section Defs

/-- A wait that is over, with what it ended with. -/
abbrev Ended := (w : Wait) × w.Answer

/-- Whatever its waits end with, and whatever becomes of the world meanwhile, a call returns as
`post` says, which is told the waits in order. -/
def Task.Returns :
    Task ν S α → (List Ended → α → World (State ν) S → Prop) → World (State ν) S → Prop
  | .done a, post, world => post [] a world
  | .act next change, post, world => (next world).Returns post (change world)
  | .wait w next _, post, _ =>
      ∀ answer later, (next answer).Returns (fun ended => post (⟨w, answer⟩ :: ended)) later

/-- Requests are posted on a connection one after the other, without a wait, and this is what comes
of each. What posting one does to the network is told by `postedInTurn_one_iff`. -/
inductive PostedInTurn (net : Network ν) (live : Live) :
    World (State ν) S → List Request → List Posted → World (State ν) S → Prop
  | nil
      (world : World (State ν) S) :
      PostedInTurn net live world [] [] world
  | cons
      {world next left : World (State ν) S}
      {request : Request}
      {requests : List Request}
      {posted : Posted}
      {others : List Posted}
      (hfirst : (Network.request net live request).Returns
        (fun ended a after => ended = [] ∧ a = posted ∧ after = next) world)
      (hrest : PostedInTurn net live next requests others left) :
      PostedInTurn net live world (request :: requests) (posted :: others) left

/-- What is heard of requests on a connection, in order: the reply to the ticket of each one that
was posted, and of any other one why it was not. -/
inductive Heard (live : Live) : List Posted → List Ended → List Result → Prop
  | nil : Heard live [] [] []
  | reply
      {posted : List Posted}
      {ended : List Ended}
      {results : List Result}
      (ticket : Nat)
      (result : Result)
      (hrest : Heard live posted ended results) :
      Heard live (.ok ticket :: posted) (⟨.reply live.connection ticket, result⟩ :: ended)
        (result :: results)
  | unposted
      {posted : List Posted}
      {ended : List Ended}
      {results : List Result}
      (fault : Fault)
      (hrest : Heard live posted ended results) :
      Heard live (.error fault :: posted) ended (.error fault :: results)

/-- The requests of a frame, which there may be none of. -/
def frameRequests (framed : Bool) (text : String) : List Request :=
  if framed then [.script text] else []

/-- The requests of a pipeline. -/
def pipelineRequests (statements : List Statement) (framed : Bool) : List Request :=
  frameRequests framed "BEGIN" ++
    (statements.map requestOf ++ frameRequests framed "COMMIT")

/-- The responses to a pipeline: to its `BEGIN` if it has one, to each statement, and to its
`COMMIT`. -/
structure Responses (statements : List Statement) (framed : Bool) where
  begun : Option Result
  results : List (Statement × Result)
  committed : Option Result
  statements_eq : results.map Prod.fst = statements
  begun_isSome : begun.isSome = framed
  committed_isSome : committed.isSome = framed

/-- A statement is answered by its reply: a query by the rows and their number, any other statement
by no rows and the number that the server told, or that of the rows. -/
def Answered (kind : StatementKind) (reply : Reply) (answer : Answer Row) : Prop :=
  match kind with
  | .query => answer.rows = reply.rows ∧ answer.rowsAffected = reply.rows.length
  | .exec => answer.rows = [] ∧
      (∀ n, reply.affected = some n → answer.rowsAffected = n) ∧
      (reply.affected = none → answer.rowsAffected = reply.rows.length)

/-- There is a reply to each statement, and an answer that it makes. -/
def AnsweredEach : List (Statement × Result) → List (Answer Row) → Prop :=
  List.Forall₂ fun entry answer =>
    ∃ reply, entry.2 = .ok reply ∧ Answered entry.1.kind reply answer

/-- The response at an index is a fault, and those before it are replies. -/
structure FirstFault
    (results : List (Statement × Result))
    (index : Nat)
    (fault : Fault) : Prop where
  here : ∃ statement, results[index]? = some (statement, .error fault)
  earlier : ∀ before < index, ∃ statement reply, results[before]? = some (statement, .ok reply)

end Defs

namespace Responses

variable {statements : List Statement} {framed : Bool}

/-- All responses in the order of the requests. -/
def all (responses : Responses statements framed) : List Result :=
  responses.begun.toList ++ (responses.results.map Prod.snd ++ responses.committed.toList)

/-- What responses lead to. -/
inductive Concludes (responses : Responses statements framed) : Answers Row → Prop
  | begin_failed
      (fault : Fault)
      (hbegun : responses.begun = some (.error fault)) :
      Concludes responses (.error (.connection fault.message))
  | connection_lost
      (index : Nat)
      (hbegun : ∀ fault, responses.begun ≠ some (.error fault))
      (hfirst : FirstFault responses.results index .closed) :
      Concludes responses (.error (.connection Fault.closed.message))
  | statement_failed
      (index : Nat)
      (fault : Fault)
      (hbegun : ∀ fault, responses.begun ≠ some (.error fault))
      (hfirst : FirstFault responses.results index fault)
      (hfault : fault ≠ .closed) :
      Concludes responses (.error (.statement index fault.message))
  | commit_failed
      (fault : Fault)
      (hbegun : ∀ fault, responses.begun ≠ some (.error fault))
      (hresults : ∀ entry ∈ responses.results, ∃ reply, entry.2 = .ok reply)
      (hcommitted : responses.committed = some (.error fault)) :
      Concludes responses (.error (.connection fault.message))
  | answered
      (answers : List (Answer Row))
      (hbegun : ∀ fault, responses.begun ≠ some (.error fault))
      (hcommitted : ∀ fault, responses.committed ≠ some (.error fault))
      (hanswers : AnsweredEach responses.results answers) :
      Concludes responses (.ok answers)

end Responses

section Courses

variable {post : List Ended → α → World (State ν) S → Prop} {world : World (State ν) S}

namespace Task.Returns

theorem imp
    {task : Task ν S α}
    {other : List Ended → α → World (State ν) S → Prop}
    (hreturns : task.Returns post world)
    (himp : ∀ ended a left, post ended a left → other ended a left) :
    task.Returns other world := by
  induction task generalizing post other world with
  | done a => exact himp _ _ _ hreturns
  | act next change ih => exact ih world hreturns himp
  | wait w next dropped ih =>
      exact fun answer later => ih answer (hreturns answer later) fun ended => himp _

/-- The waits of a call that goes on with another one are those of the one and then those of the
other. -/
theorem bind
    {task : Task ν S β}
    {next : β → Task ν S α}
    {first : List Ended → β → World (State ν) S → Prop}
    (hreturns : task.Returns first world)
    (hnext : ∀ ended b left, first ended b left →
      (next b).Returns (fun more => post (ended ++ more)) left) :
    (task >>= next).Returns post world := by
  induction task generalizing first post world with
  | done b => exact hnext [] b world hreturns
  | act body change ih => exact ih world hreturns hnext
  | wait w body dropped ih =>
      exact fun answer later => ih answer (hreturns answer later) fun ended => hnext _

theorem onDrop
    {task : Task ν S α}
    {leave : World (State ν) S → World (State ν) S}
    (hreturns : task.Returns post world) :
    (task.onDrop leave).Returns post world := by
  induction task generalizing post world with
  | done a => exact hreturns
  | act next change ih => exact ih world hreturns
  | wait w next dropped ih => exact fun answer later => ih answer (hreturns answer later)

/-- Run by itself, a call takes one of its courses. -/
theorem ends
    {task : Task ν S α}
    (net : Network ν)
    (cutoff : Option Nat)
    (hreturns : task.Returns post world) :
    Ends (fun a left => ∃ ended, post ended a left) (fun _ => True)
      ((task.work net).run cutoff world) := by
  induction task generalizing post world with
  | done a => exact ⟨[], hreturns⟩
  | act next change ih => exact ih world hreturns
  | wait w next dropped ih =>
      apply ends_bind
      apply ends_onCut
      refine ends_anyhow.imp (fun answer later _ => ?_) fun _ _ => trivial
      refine (ih answer (hreturns answer later)).imp ?_ fun _ _ => trivial
      rintro a left ⟨ended, hpost⟩
      exact ⟨⟨w, answer⟩ :: ended, hpost⟩

end Task.Returns

theorem returns_anyhow
    (task : Task ν S α) :
    task.Returns (fun _ _ _ => True) world := by
  induction task generalizing world with
  | done a => trivial
  | act next change ih => exact ih world
  | wait w next dropped ih => exact fun answer later => ih answer

end Courses

section Posting

variable {net : Network ν} {live : Live} {world : World (State ν) S}

/-- A request is handed to the network as it is, and its ticket is the one that the network gives,
unless the request cannot be written or the connection is closed; then nothing happens. -/
theorem postedInTurn_one_iff
    {request : Request}
    {posted : Posted}
    {left : World (State ν) S} :
    PostedInTurn net live world [request] [posted] left ↔
      (∃ fault, unwritable? request = some fault ∧ posted = .error fault ∧ left = world) ∨
      (unwritable? request = none ∧ net.isOpen world.driver.network live.connection = false ∧
        posted = .error .closed ∧ left = world) ∨
      (unwritable? request = none ∧ net.isOpen world.driver.network live.connection = true ∧
        ∃ ticket network,
          net.post live.connection world.now request world.driver.network = (ticket, network) ∧
          posted = .ok ticket ∧ left = changeNetwork (fun _ => network) world) := by
  have hone : PostedInTurn net live world [request] [posted] left ↔
      (Network.request net live request).Returns
        (fun ended a after => ended = [] ∧ a = posted ∧ after = left) world := by
    constructor
    · intro hposted
      cases hposted with
      | cons hfirst hrest =>
          cases hrest
          exact hfirst
    · exact fun hfirst => .cons hfirst (.nil left)
  rw [hone]
  simp only [Network.request, Task.step, Task.Returns, true_and]
  cases unwritable? request with
  | some fault =>
      constructor
      · rintro ⟨rfl, rfl⟩
        exact .inl ⟨fault, rfl, rfl, rfl⟩
      · rintro (⟨_, hfault, rfl, rfl⟩ | ⟨hnone, -⟩ | ⟨hnone, -⟩)
        · cases hfault
          exact ⟨rfl, rfl⟩
        · cases hnone
        · cases hnone
  | none =>
      cases net.isOpen world.driver.network live.connection with
      | false =>
          constructor
          · rintro ⟨rfl, rfl⟩
            exact .inr (.inl ⟨rfl, rfl, rfl, rfl⟩)
          · rintro (⟨_, hsome, -⟩ | ⟨-, -, rfl, rfl⟩ | ⟨-, hopen, -⟩)
            · cases hsome
            · exact ⟨rfl, rfl⟩
            · cases hopen
      | true =>
          constructor
          · rintro ⟨rfl, rfl⟩
            exact .inr (.inr ⟨rfl, rfl, _, _, rfl, rfl, rfl⟩)
          · rintro (⟨_, hsome, -⟩ | ⟨-, hclosed, -⟩ | ⟨-, -, ticket, network, hpost, rfl, rfl⟩)
            · cases hsome
            · cases hclosed
            · simp only [hpost]
              exact ⟨rfl, rfl⟩

theorem PostedInTurn.append
    {next left : World (State ν) S}
    {first second : List Request}
    {posted others : List Posted}
    (hfirst : PostedInTurn net live world first posted next)
    (hsecond : PostedInTurn net live next second others left) :
    PostedInTurn net live world (first ++ second) (posted ++ others) left := by
  induction hfirst with
  | nil => exact hsecond
  | cons hone _ ih => exact .cons hone (ih hsecond)

theorem Heard.append
    {posted others : List Posted}
    {ended more : List Ended}
    {results rest : List Result}
    (hfirst : Heard live posted ended results)
    (hsecond : Heard live others more rest) :
    Heard live (posted ++ others) (ended ++ more) (results ++ rest) := by
  induction hfirst with
  | nil => exact hsecond
  | reply ticket result _ ih => exact .reply ticket result ih
  | unposted fault _ ih => exact .unposted fault ih

theorem returns_request
    (net : Network ν)
    (live : Live)
    (request : Request) :
    (Network.request net live request).Returns
      (fun ended posted left => ended = [] ∧ PostedInTurn net live world [request] [posted] left)
      world :=
  ⟨rfl, .cons ⟨rfl, rfl, rfl⟩ (.nil _)⟩

theorem returns_postAll
    (net : Network ν)
    (live : Live)
    (statements : List Statement) :
    (Network.postAll net live statements).Returns
      (fun ended posted left => ended = [] ∧
        posted.map Prod.fst = statements.map Statement.kind ∧
        PostedInTurn net live world (statements.map requestOf) (posted.map Prod.snd) left)
      world := by
  induction statements generalizing world with
  | nil => exact ⟨rfl, rfl, .nil world⟩
  | cons statement rest ih =>
      refine (returns_request net live (requestOf statement)).bind ?_
      rintro _ posted next ⟨rfl, hposted⟩
      refine ih.bind ?_
      rintro _ others left ⟨rfl, hkinds, hothers⟩
      exact ⟨rfl, congrArg (statement.kind :: ·) hkinds, hposted.append hothers⟩

theorem returns_postFrame
    (net : Network ν)
    (live : Live)
    (framed : Bool)
    (text : String) :
    (Network.postFrame net live framed text).Returns
      (fun ended posted left => ended = [] ∧ posted.isSome = framed ∧
        PostedInTurn net live world (frameRequests framed text) posted.toList left)
      world := by
  cases framed with
  | false => exact ⟨rfl, rfl, .nil world⟩
  | true =>
      refine (returns_request net live (.script text)).bind ?_
      rintro _ posted left ⟨rfl, hposted⟩
      exact ⟨rfl, rfl, hposted⟩

end Posting

section Hearing

variable {world : World (State ν) S}

theorem returns_outcome
    (live : Live)
    (posted : Posted) :
    (Network.outcome live posted).Returns (fun ended result _ => Heard live [posted] ended [result])
      world := by
  cases posted with
  | ok ticket => exact fun result _ => .reply ticket result .nil
  | error fault => exact .unposted fault .nil

theorem returns_outcomes
    (live : Live)
    (posted : List (StatementKind × Posted)) :
    (Network.outcomes live posted).Returns
      (fun ended results _ => results.map Prod.fst = posted.map Prod.fst ∧
        Heard live (posted.map Prod.snd) ended (results.map Prod.snd))
      world := by
  induction posted generalizing world with
  | nil => exact ⟨rfl, .nil⟩
  | cons first rest ih =>
      refine (returns_outcome live first.2).bind fun ended result next hresult => ?_
      refine ih.bind fun more results left ⟨hkinds, hresults⟩ => ?_
      refine ⟨congrArg (first.1 :: ·) hkinds, ?_⟩
      rw [List.append_nil]
      exact hresult.append hresults

theorem returns_frameOutcome
    (live : Live)
    (posted : Option Posted) :
    (Network.frameOutcome live posted).Returns
      (fun ended result _ => result.isSome = posted.isSome ∧
        Heard live posted.toList ended result.toList)
      world := by
  cases posted with
  | none => exact ⟨rfl, .nil⟩
  | some posted =>
      refine (returns_outcome live posted).bind fun ended result left hresult => ⟨rfl, ?_⟩
      rw [List.append_nil]
      exact hresult

end Hearing

section Gathering

/-- Results as the driver gathers them. -/
def byKind (results : List (Statement × Result)) : List (StatementKind × Result) :=
  results.map fun entry => (entry.1.kind, entry.2)

theorem frameError_eq_none_iff
    {result : Option Result} :
    frameError result = none ↔ ∀ fault, result ≠ some (.error fault) := by
  rcases result with _ | _ | _ <;> simp [frameError]

theorem eq_of_frameError
    {result : Option Result}
    {e : DriverError}
    (hframe : frameError result = some e) :
    ∃ fault, result = some (.error fault) ∧ e = .connection fault.message := by
  rcases result with _ | fault | reply
  · cases hframe
  · exact ⟨fault, rfl, (Option.some.inj hframe).symm⟩
  · cases hframe

theorem answered_iff
    {kind : StatementKind}
    {reply : Reply}
    {answer : Answer Row} :
    Answered kind reply answer ↔ answer = answerOf kind reply := by
  obtain ⟨rows, rowsAffected⟩ := answer
  obtain ⟨replied, told⟩ := reply
  cases kind with
  | query => simp [Answered, answerOf, Answer.ofRows]
  | exec =>
      cases told with
      | none => simp [Answered, answerOf, Answer.affected]
      | some n => simp [Answered, answerOf, Answer.affected, eq_comm]

theorem replied_of_answeredEach
    {results : List (Statement × Result)}
    {answers : List (Answer Row)}
    (hanswers : AnsweredEach results answers) :
    ∀ entry ∈ results, ∃ reply, entry.2 = .ok reply := by
  induction hanswers with
  | nil => exact fun _ hmem => (nomatch hmem)
  | cons hfirst _ ih =>
      obtain ⟨reply, hreply, -⟩ := hfirst
      exact List.forall_mem_cons.2 ⟨⟨reply, hreply⟩, ih⟩

theorem FirstFault.not_replied
    {results : List (Statement × Result)}
    {index : Nat}
    {fault : Fault}
    (hfirst : FirstFault results index fault) :
    ¬ ∀ entry ∈ results, ∃ reply, entry.2 = .ok reply := by
  intro hreplied
  obtain ⟨statement, hfault⟩ := hfirst.here
  obtain ⟨reply, hreply⟩ := hreplied _ (List.mem_of_getElem? hfault)
  cases hreply

theorem FirstFault.cons
    {results : List (Statement × Result)}
    {index : Nat}
    {fault : Fault}
    (hfirst : FirstFault results index fault)
    (statement : Statement)
    (reply : Reply) :
    FirstFault ((statement, .ok reply) :: results) (index + 1) fault where
  here := hfirst.here
  earlier before hbefore := by
    cases before with
    | zero => exact ⟨statement, reply, rfl⟩
    | succ before => exact hfirst.earlier before (Nat.lt_of_succ_lt_succ hbefore)

theorem gatherFrom_cons_ok
    (start : Nat)
    (kind : StatementKind)
    (reply : Reply)
    (rest : List (StatementKind × Result)) :
    gatherFrom start ((kind, .ok reply) :: rest)
      = (answerOf kind reply :: ·) <$> gatherFrom (start + 1) rest := by
  rw [gatherFrom]
  cases gatherFrom (start + 1) rest <;> rfl

/-- Gathering finds the first fault, if there is one, and otherwise an answer to each statement. -/
theorem gatherFrom_cases
    (results : List (Statement × Result))
    (start : Nat) :
    (∃ answers, gatherFrom start (byKind results) = .ok answers ∧ AnsweredEach results answers) ∨
    ∃ index fault, gatherFrom start (byKind results)
        = .error (statementError (start + index) fault) ∧
      FirstFault results index fault := by
  induction results generalizing start with
  | nil => exact .inl ⟨[], rfl, .nil⟩
  | cons entry rest ih =>
      obtain ⟨statement, fault | reply⟩ := entry
      · exact .inr ⟨0, fault, rfl, ⟨statement, rfl⟩, fun _ hbefore => absurd hbefore (by simp)⟩
      · have hstep : gatherFrom start (byKind ((statement, .ok reply) :: rest))
            = (answerOf statement.kind reply :: ·) <$> gatherFrom (start + 1) (byKind rest) :=
          gatherFrom_cons_ok start _ reply _
        rw [hstep]
        rcases ih (start + 1) with ⟨answers, hgather, hanswers⟩ | ⟨index, fault, hgather, hfirst⟩
        · rw [hgather]
          exact .inl ⟨_, rfl, .cons ⟨reply, rfl, answered_iff.2 rfl⟩ hanswers⟩
        · rw [hgather]
          refine .inr ⟨index + 1, fault, ?_, hfirst.cons statement reply⟩
          rw [Nat.add_assoc, Nat.add_comm 1]
          rfl

theorem gatherFrom_of_answeredEach
    {results : List (Statement × Result)}
    {answers : List (Answer Row)}
    (hanswers : AnsweredEach results answers)
    (start : Nat) :
    gatherFrom start (byKind results) = .ok answers := by
  rcases gatherFrom_cases results start with ⟨others, hgather, hothers⟩ | ⟨index, fault, -, hfirst⟩
  · -- an entry is answered in one way only
    have hunique : Relator.RightUnique fun (entry : Statement × Result) (answer : Answer Row) =>
        ∃ reply, entry.2 = .ok reply ∧ Answered entry.1.kind reply answer := by
      rintro entry answer other ⟨reply, hreply, hanswer⟩ ⟨again, hagain, hother⟩
      rw [hreply] at hagain
      cases hagain
      rw [answered_iff.1 hanswer, answered_iff.1 hother]
    rw [hgather, List.right_unique_forall₂' hunique hothers hanswers]
  · exact absurd (replied_of_answeredEach hanswers) hfirst.not_replied

theorem FirstFault.unique
    {results : List (Statement × Result)}
    {index other : Nat}
    {fault another : Fault}
    (hfirst : FirstFault results index fault)
    (hother : FirstFault results other another) :
    index = other ∧ fault = another := by
  obtain ⟨statement, hfault⟩ := hfirst.here
  obtain ⟨_, hanother⟩ := hother.here
  rcases lt_trichotomy index other with hlt | rfl | hlt
  · obtain ⟨_, reply, hreply⟩ := hother.earlier index hlt
    rw [hfault] at hreply
    cases hreply
  · rw [hfault] at hanother
    cases hanother
    exact ⟨rfl, rfl⟩
  · obtain ⟨_, reply, hreply⟩ := hfirst.earlier other hlt
    rw [hanother] at hreply
    cases hreply

theorem gatherFrom_of_firstFault
    {results : List (Statement × Result)}
    {index : Nat}
    {fault : Fault}
    (hfirst : FirstFault results index fault) :
    gatherFrom 0 (byKind results) = .error (statementError index fault) := by
  rcases gatherFrom_cases results 0 with ⟨answers, -, hanswers⟩ | ⟨other, another, hgather, hother⟩
  · exact absurd (replied_of_answeredEach hanswers) hfirst.not_replied
  · obtain ⟨rfl, rfl⟩ := hfirst.unique hother
    rw [hgather, Nat.zero_add]

theorem gatherFrom_of_replied
    {results : List (Statement × Result)}
    (hreplied : ∀ entry ∈ results, ∃ reply, entry.2 = .ok reply) :
    ∃ answers, gatherFrom 0 (byKind results) = .ok answers := by
  rcases gatherFrom_cases results 0 with ⟨answers, hgather, -⟩ | ⟨index, fault, -, hfirst⟩
  · exact ⟨answers, hgather⟩
  · exact absurd hreplied hfirst.not_replied

namespace Responses

variable {statements : List Statement} {framed : Bool}

/-- What a pipeline gathers is what its responses lead to. -/
theorem concludes_gather
    (responses : Responses statements framed) :
    responses.Concludes
      (gather responses.begun (byKind responses.results) responses.committed) := by
  unfold gather
  cases hbegun : frameError responses.begun with
  | some e =>
      obtain ⟨fault, hfault, rfl⟩ := eq_of_frameError hbegun
      exact .begin_failed fault hfault
  | none =>
      have hbegun := frameError_eq_none_iff.1 hbegun
      rcases gatherFrom_cases responses.results 0 with
        ⟨answers, hgather, hanswers⟩ | ⟨index, fault, hgather, hfirst⟩
      · rw [hgather]
        cases hcommitted : frameError responses.committed with
        | some e =>
            obtain ⟨fault, hfault, rfl⟩ := eq_of_frameError hcommitted
            exact .commit_failed fault hbegun (replied_of_answeredEach hanswers) hfault
        | none => exact .answered answers hbegun (frameError_eq_none_iff.1 hcommitted) hanswers
      · rw [hgather, Nat.zero_add]
        by_cases hfault : fault = .closed
        · subst hfault
          exact .connection_lost index hbegun hfirst
        · simp only [statementError, if_neg hfault]
          exact .statement_failed index fault hbegun hfirst hfault

/-- Responses lead to nothing else. -/
theorem concludes_iff
    (responses : Responses statements framed)
    (answers : Answers Row) :
    responses.Concludes answers
      ↔ answers = gather responses.begun (byKind responses.results) responses.committed := by
  refine ⟨fun hconcludes => ?_, fun heq => heq ▸ responses.concludes_gather⟩
  cases hconcludes with
  | begin_failed fault hbegun => rw [hbegun]; rfl
  | connection_lost index hbegun hfirst =>
      rw [gather, frameError_eq_none_iff.2 hbegun, gatherFrom_of_firstFault hfirst]
      rfl
  | statement_failed index fault hbegun hfirst hfault =>
      rw [gather, frameError_eq_none_iff.2 hbegun, gatherFrom_of_firstFault hfirst]
      simp only [statementError, if_neg hfault]
  | commit_failed fault hbegun hresults hcommitted =>
      obtain ⟨answers, hgather⟩ := gatherFrom_of_replied hresults
      rw [gather, frameError_eq_none_iff.2 hbegun, hgather, hcommitted]
      rfl
  | answered answers hbegun hcommitted hanswers =>
      rw [gather, frameError_eq_none_iff.2 hbegun, gatherFrom_of_answeredEach hanswers,
        frameError_eq_none_iff.2 hcommitted]

end Responses
end Gathering

section Pipelines

variable {statements : List Statement} {framed : Bool}

/-- If there are answers, there is one to each statement. -/
theorem Responses.Concludes.answersTo
    {responses : Responses statements framed}
    {answers : Answers Row}
    (hconcludes : responses.Concludes answers) :
    AnswersTo statements answers := by
  rintro list rfl
  cases hconcludes with
  | answered _ _ _ hanswers =>
      rw [← hanswers.length_eq, ← congrArg List.length responses.statements_eq, List.length_map]

/-- What a pipeline answers is what the responses to its own requests lead to, and nothing else. -/
def Explained
    (net : Network ν)
    (live : Live)
    (statements : List Statement)
    (framed : Bool)
    (world : World (State ν) S)
    (ended : List Ended)
    (answers : Answers Row) : Prop :=
  ∃ posted next, PostedInTurn net live world (pipelineRequests statements framed) posted next ∧
    ∃ responses : Responses statements framed, Heard live posted ended responses.all ∧
      ∀ other, responses.Concludes other ↔ other = answers

theorem Explained.answersTo
    {net : Network ν}
    {live : Live}
    {world : World (State ν) S}
    {ended : List Ended}
    {answers : Answers Row}
    (hexplained : Explained net live statements framed world ended answers) :
    AnswersTo statements answers := by
  obtain ⟨_, _, -, responses, -, hconcludes⟩ := hexplained
  exact ((hconcludes answers).2 rfl).answersTo

theorem returns_pipeline
    (net : Network ν)
    (live : Live)
    (statements : List Statement)
    (framed : Bool)
    (world : World (State ν) S) :
    (Network.pipeline net live statements framed).Returns
      (fun ended answers _ => Explained net live statements framed world ended answers) world := by
  refine (returns_postFrame net live framed "BEGIN").bind ?_
  rintro _ begin first ⟨rfl, hbegin, hfirst⟩
  refine (returns_postAll net live statements).bind ?_
  rintro _ posted second ⟨rfl, hkinds, hsecond⟩
  refine (returns_postFrame net live framed "COMMIT").bind ?_
  rintro _ commit third ⟨rfl, hcommit, hthird⟩
  have hposted := hfirst.append (hsecond.append hthird)
  refine (returns_frameOutcome live begin).bind fun ended₁ begun _ ⟨hbegun, hheard₁⟩ => ?_
  refine (returns_outcomes live posted).bind fun ended₂ results _ ⟨hresults, hheard₂⟩ => ?_
  refine (returns_frameOutcome live commit).bind fun ended₃ committed _ ⟨hcommitted, hheard₃⟩ => ?_
  have hheard := hheard₁.append (hheard₂.append hheard₃)
  -- the results go with the statements whose kinds they carry
  let paired := statements.zip (results.map Prod.snd)
  have hlength : statements.length = (results.map Prod.snd).length := by
    have hmaps := congrArg List.length (hresults.trans hkinds)
    simpa using hmaps.symm
  let responses : Responses statements framed :=
    { begun := begun, results := paired, committed := committed
      statements_eq := List.map_fst_zip hlength.le
      begun_isSome := hbegun.trans hbegin
      committed_isSome := hcommitted.trans hcommit }
  have hpaired : byKind paired = results := by
    rw [List.zip_of_prod (hresults.trans hkinds) rfl, List.zip_map_left]
    rfl
  have hall : responses.all = begun.toList ++ (results.map Prod.snd ++ committed.toList) := by
    simp only [Responses.all, responses, paired, List.map_snd_zip hlength.ge]
  refine ⟨_, _, hposted, responses, ?_, ?_⟩
  · rw [hall]
    simpa using hheard
  · have hconcludes := responses.concludes_iff
    rwa [hpaired] at hconcludes

end Pipelines

section Drivers

variable {net : Network ν} {world : World (State ν) S}

theorem returns_batchOn
    (net : Network ν)
    (statements : List Statement)
    (live : Live) :
    (Network.batchOn net statements live).Returns (fun _ answers _ => AnswersTo statements answers)
      world := by
  refine (returns_pipeline net live statements _ world).onDrop.bind ?_
  exact fun ended answers left hexplained => hexplained.answersTo

theorem returns_sendIn
    (net : Network ν)
    (tx : Nat)
    (statements : List Statement) :
    (Network.sendIn net tx statements).Returns (fun _ answers _ => AnswersTo statements answers)
      world := by
  refine (returns_anyhow (Network.heldBy tx)).bind fun ended held left _ => ?_
  cases held with
  | none => exact fun _ hok => (nomatch hok)
  | some live =>
      refine (returns_pipeline net live statements false left).imp ?_
      exact fun more answers last hexplained => hexplained.answersTo

/-- The driver answers each of the statements that it is sent. -/
theorem driver_answersEach
    (net : Network ν) :
    net.driver.AnswersEach where
  send statements cutoff world := by
    have hreturns : (Network.checkOut net (Network.batchOn net statements)).Returns
        (fun _ answers _ => AnswersTo statements answers) world := by
      refine (returns_anyhow (Network.acquire net)).bind fun ended acquired left _ => ?_
      cases acquired with
      | error e => exact fun _ hok => (nomatch hok)
      | ok live => exact returns_batchOn net statements live
    exact (hreturns.ends net cutoff).imp (fun _ _ ⟨_, h⟩ => h) fun _ _ => trivial
  sendIn tx statements cutoff world := by
    have hreturns := @returns_sendIn ν _ world net tx statements
    exact (hreturns.ends net cutoff).imp (fun _ _ ⟨_, h⟩ => h) fun _ _ => trivial

/-- A pipeline answers as the responses to its own requests say, in every course that it can take:
with one answer to each statement, made of the reply to that statement, or with the error of the
first fault. So no batch fails for the number of its answers, unless its callback says so. -/
theorem pipelines_answer_each_statement
    (net : Network ν) :
    (∀ (live : Live) (statements : List Statement) (framed : Bool) (world : World (State ν) S),
      (Network.pipeline net live statements framed).Returns
        (fun ended answers _ => Explained net live statements framed world ended answers ∧
          AnswersTo statements answers)
        world) ∧
    ∀ (ctx : Context) (queue : Context → Queueing (State ν) Row S Unit) (cutoff : Option Nat)
      (world : World (State ν) S) (e : Error), e.isMiscount = true →
      (((net.driver.runBatch ctx queue).run cutoff world).1 = .done (.error e) →
        FailsWith queue e) ∧
      (((net.driver.runBatchInTransaction ctx queue).run cutoff world).1 = .done (.error e) →
        ∃ cause, FailsWith queue cause ∧ (e = cause ∨ ∃ why, e = .rollback cause why)) := by
  refine ⟨fun live statements framed world => ?_, fun ctx queue cutoff world e hmiscount => ?_⟩
  · refine (returns_pipeline net live statements framed world).imp ?_
    exact fun ended answers left hexplained => ⟨hexplained, hexplained.answersTo⟩
  · have heach := driver_answersEach net
    have hcounted : ¬ e.isMiscount = false := by simp [hmiscount]
    refine ⟨fun hfailed => ?_, fun hfailed => ?_⟩
    · have hresult := (heach.ends_runBatch ctx queue).of_done (run_eq_of_done hfailed)
      exact hresult.resolve_left hcounted
    · have hresult := (heach.ends_runBatchInTransaction ctx queue).of_done (run_eq_of_done hfailed)
      exact hresult.resolve_left hcounted

end Drivers
end Postgres
end QueryBatch
