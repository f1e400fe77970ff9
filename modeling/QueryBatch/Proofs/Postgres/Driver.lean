import QueryBatch.Proofs.Postgres.Calls

/-!
# What the calls of the driver promise

One lemma for each call of the driver, for every moment at which it may be dropped and every way in
which the wait for a reply may end. `Holding` is the state of a call between two waits: it knows the
line of its connection as it is now. What a call posts is computed by `Line.submit`, and what it
learns is put in terms of the line (`Line.Learned`), so nothing here depends on other calls.
-/

namespace QueryBatch
namespace Postgres

variable {S α β : Type}

section Defs

namespace Line

/-- What the client makes of a request, posted or not, agrees with what it has learned. -/
def Learned (line : Line) : Posted → Result → Prop
  | .ok position, result => line.reply? position = some result
  | .error fault, result => result = .error fault

/-- Post statements in order. -/
def submitAll : List Statement → Line → List (StatementKind × Posted) × Line
  | [], line => ([], line)
  | statement :: rest, line =>
      let first := line.submit (.statement statement.sql)
      let others := submitAll rest first.2
      ((statement.kind, first.1) :: others.1, others.2)

/-- Post the text of a frame, if statements are framed. -/
def submitFrame (framed : Bool) (text : String) (line : Line) : Option Posted × Line :=
  if framed then (some (line.submit (.script text)).1, (line.submit (.script text)).2)
  else (none, line)

/-- The client has learned what became of a frame, if there is one. -/
def LearnedFrame (line : Line) : Option Posted → Option Result → Prop
  | none, none => True
  | some posted, some result => line.Learned posted result
  | _, _ => False

/-- The client has learned what became of statements. -/
def LearnedAll (line : Line) :
    List (StatementKind × Posted) → List (StatementKind × Result) → Prop :=
  List.Forall₂ fun posted result => posted.1 = result.1 ∧ line.Learned posted.2 result.2

/-- The line once a pipeline is posted. -/
def pipelined (line : Line) (statements : List Statement) (framed : Bool) : Line :=
  let opening := line.submitFrame framed "BEGIN"
  ((opening.2.submitAll statements).2.submitFrame framed "COMMIT").2

/-- A pipeline of statements on a line came to answers. -/
def Piped (line : Line) (statements : List Statement) (framed : Bool) (later : Line)
    (answers : Answers Row) : Prop :=
  let opening := line.submitFrame framed "BEGIN"
  let middle := opening.2.submitAll statements
  let closing := middle.2.submitFrame framed "COMMIT"
  closing.2.Grows [] later ∧
    ∃ begun results committed,
      later.LearnedFrame opening.1 begun ∧ later.LearnedAll middle.1 results ∧
        later.LearnedFrame closing.1 committed ∧ answers = gather begun results committed

end Line

/-- The answer to a script. -/
def scriptAnswer : Result → Except DriverError Unit
  | .ok _ => .ok ()
  | .error fault => .error (.connection fault.message)

/-- What a line knows of a script that was run on it. -/
def Line.Scripted (line : Line) (text : String) (later : Line) (answer : Except DriverError Unit) :
    Prop :=
  (line.submit (.script text)).2.Grows [] later ∧
    ∃ result, later.Learned (line.submit (.script text)).1 result ∧ answer = scriptAnswer result

/-- A script was posted on a line at most once, and nothing else, and nothing need be known of
it. -/
def Line.Attempted (line : Line) (text : String) (later : Line) : Prop :=
  ∃ requests, requests <+: [Request.script text] ∧ line.Grows requests later

end Defs

namespace Line

variable {line later : Line}

/-- A request is posted, or it cannot be written, or the connection is lost. -/
theorem submit_cases
    (line : Line)
    (request : Request) :
    (∃ fault, unwritable? request = some fault ∧ line.submit request = (.error fault, line)) ∨
      (unwritable? request = none ∧ line.up = false ∧
        line.submit request = (.error .closed, line)) ∨
      (unwritable? request = none ∧ line.up = true ∧
        line.submit request = (.ok line.posted.length, line.post [request])) := by
  unfold submit
  cases hwritable : unwritable? request with
  | some fault => simp
  | none => cases hup : line.up <;> simp

theorem Learned.grow
    {posted : Posted}
    {result : Result}
    {requests : List Request}
    (hlearned : line.Learned posted result)
    (hgrows : line.Grows requests later) :
    later.Learned posted result := by
  cases posted with
  | ok position => exact hgrows.reply? hlearned
  | error fault => exact hlearned

theorem LearnedFrame.grow
    {posted : Option Posted}
    {result : Option Result}
    {requests : List Request}
    (hlearned : line.LearnedFrame posted result)
    (hgrows : line.Grows requests later) :
    later.LearnedFrame posted result := by
  rcases posted with _ | posted <;> rcases result with _ | result
  · trivial
  · cases hlearned
  · cases hlearned
  · exact Learned.grow hlearned hgrows

theorem LearnedAll.grow
    {posted : List (StatementKind × Posted)}
    {results : List (StatementKind × Result)}
    {requests : List Request}
    (hlearned : line.LearnedAll posted results)
    (hgrows : line.Grows requests later) :
    later.LearnedAll posted results :=
  hlearned.imp fun _ _ hone => ⟨hone.1, hone.2.grow hgrows⟩

theorem Piped.grow
    {statements : List Statement}
    {framed : Bool}
    {answers : Answers Row}
    {latest : Line}
    (hpiped : line.Piped statements framed later answers)
    (hgrows : later.Grows [] latest) :
    line.Piped statements framed latest answers := by
  obtain ⟨hposted, begun, results, committed, hbegun, hresults, hcommitted, hanswers⟩ := hpiped
  exact ⟨hposted.trans_still hgrows, begun, results, committed, hbegun.grow hgrows,
    hresults.grow hgrows, hcommitted.grow hgrows, hanswers⟩

theorem Scripted.grow
    {text : String}
    {answer : Except DriverError Unit}
    {latest : Line}
    (hscripted : line.Scripted text later answer)
    (hgrows : later.Grows [] latest) :
    line.Scripted text latest answer := by
  obtain ⟨hposted, result, hresult, hanswer⟩ := hscripted
  exact ⟨hposted.trans_still hgrows, result, hresult.grow hgrows, hanswer⟩

theorem attempted_of_submit
    {text : String}
    (hgrows : (line.submit (.script text)).2.Grows [] later) :
    line.Attempted text later := by
  rcases line.submit_cases (.script text) with
    ⟨fault, -, hsubmit⟩ | ⟨-, -, hsubmit⟩ | ⟨-, -, hsubmit⟩
  · rw [hsubmit] at hgrows
    exact ⟨[], List.nil_prefix, hgrows⟩
  · rw [hsubmit] at hgrows
    exact ⟨[], List.nil_prefix, hgrows⟩
  · rw [hsubmit] at hgrows
    exact ⟨_, List.prefix_rfl, (Grows.post line _).trans_still hgrows⟩

theorem Scripted.attempted
    {text : String}
    {answer : Except DriverError Unit}
    (hscripted : line.Scripted text later answer) :
    line.Attempted text later :=
  attempted_of_submit hscripted.1

theorem Attempted.grow
    {text : String}
    {latest : Line}
    (hattempted : line.Attempted text later)
    (hgrows : later.Grows [] latest) :
    line.Attempted text latest := by
  obtain ⟨requests, hrequests, hposted⟩ := hattempted
  exact ⟨requests, hrequests, hposted.trans_still hgrows⟩

theorem Attempted.after
    {text : String}
    {earlier : Line}
    (hattempted : line.Attempted text later)
    (hgrows : earlier.Grows [] line) :
    earlier.Attempted text later := by
  obtain ⟨requests, hrequests, hposted⟩ := hattempted
  exact ⟨requests, hrequests, by simpa using hgrows.trans hposted⟩

end Line

section Requests

variable {world : World (State Wire) S} {others : List Stake}
variable {tx? : Option Nat} {live : Live} {line : Line}
variable {cut cut' : Line → Prop} {known : α → Line → Prop} {returned : β → Line → Prop}

theorem Sound.holding
    (hsound : Sound world.driver (⟨tx?, live, line⟩ :: others)) :
    Holding tx? live (world.driver.network.line live.connection) world others :=
  ⟨hsound.refresh, rfl⟩

theorem Sound.grown_self
    (hsound : Sound world.driver (⟨tx?, live, line⟩ :: others)) :
    line.Grows [] (world.driver.network.line live.connection) :=
  hsound.grown _ List.mem_cons_self

/-- Two calls in a row on one connection. -/
theorem meets_bind_on
    {task : Task Wire S α}
    {next : α → Task Wire S β}
    (hfirst : task.Meets (onLine tx? live cut known) world others)
    (hcut : ∀ line, cut line → cut' line)
    (hnext : ∀ a line left others, Holding tx? live line left others → known a line →
      (next a).Meets (onLine tx? live cut' returned) left others) :
    (task >>= next).Meets (onLine tx? live cut' returned) world others := by
  apply Task.Meets.bind
  refine hfirst.imp (fun _ hmine => hmine) ?_ ?_
  · rintro left others ⟨line, hsound, hline⟩
    exact ⟨line, hsound, hcut line hline⟩
  · rintro a left others ⟨line, hholding, hknown⟩
    exact hnext a line left others hholding hknown

theorem meets_pure_on
    {a : β}
    (hholding : Holding tx? live line world others)
    (hreturned : returned a line) :
    (pure a : Task Wire S β).Meets (onLine tx? live cut returned) world others :=
  ⟨line, hholding, hreturned⟩

/-- Posting a request takes no time and adds it to the line, if it can be posted. -/
theorem meets_request_bind
    {contract : Contract S β}
    {next : Posted → Task Wire S β}
    (request : Request)
    (hholding : Holding tx? live line world others)
    (hnext : ∀ left, Holding tx? live (line.submit request).2 left others →
      (next (line.submit request).1).Meets contract left others) :
    (Network.request Wire.network live request >>= next).Meets contract world others := by
  unfold Network.request
  rw [meets_step_bind]
  have hopen : Wire.network.isOpen world.driver.network live.connection = line.up :=
    congrArg Line.up hholding.now
  rcases line.submit_cases request with
    ⟨fault, hwritable, hsubmit⟩ | ⟨hwritable, hup, hsubmit⟩ | ⟨hwritable, hup, hsubmit⟩
  · rw [hsubmit] at hnext
    simpa only [hwritable] using hnext world hholding
  · rw [hsubmit] at hnext
    simpa [hwritable, hopen, hup] using hnext world hholding
  · rw [hsubmit] at hnext
    have hput := hholding.sound.put (line.post [request])
    simpa [hwritable, hopen, hup, Wire.network, hholding.now] using hnext
      (changeNetwork
        (fun _ => world.driver.network.put live.connection (line.post [request])) world)
      ⟨hput, Wire.line_put_self ..⟩

/-- Waiting for what becomes of a request ends with what the line then knows of it. -/
theorem meets_outcome
    (hsound : Sound world.driver (⟨tx?, live, line⟩ :: others))
    (posted : Posted) :
    (Network.outcome live posted).Meets
      (onLine tx? live (line.Grows []) fun result later =>
        line.Grows [] later ∧ later.Learned posted result) world others := by
  cases posted with
  | error fault =>
      exact ⟨_, hsound.holding, hsound.grown_self, rfl⟩
  | ok position =>
      refine ⟨[⟨tx?, live, line⟩], hsound, ⟨line, rfl⟩, fun later others' hsound' => ⟨?_, ?_⟩⟩
      · exact ⟨line, hsound', .refl _⟩
      · intro refusal result left hresult
        simp only [Wait.resolve, Option.map_eq_some_iff, Prod.mk.injEq] at hresult
        obtain ⟨_, hreply, rfl, rfl⟩ := hresult
        exact ⟨_, hsound'.holding, hsound'.grown_self, hreply⟩

/-- Posting statements takes no time and adds them to the line, as far as they can be posted. -/
theorem meets_postAll_bind
    {contract : Contract S β}
    {next : List (StatementKind × Posted) → Task Wire S β}
    (statements : List Statement)
    (hholding : Holding tx? live line world others)
    (hnext : ∀ left, Holding tx? live (line.submitAll statements).2 left others →
      (next (line.submitAll statements).1).Meets contract left others) :
    (Network.postAll Wire.network live statements >>= next).Meets contract world others := by
  induction statements generalizing world line next with
  | nil => exact hnext world hholding
  | cons first rest ih =>
      change ((Network.request Wire.network live (.statement first.sql) >>= _) >>= _).Meets _ _ _
      rw [Task.bind_assoc]
      refine meets_request_bind (.statement first.sql) hholding fun left hleft => ?_
      rw [Task.bind_assoc]
      exact ih hleft hnext

theorem meets_postFrame_bind
    {contract : Contract S β}
    {next : Option Posted → Task Wire S β}
    (framed : Bool)
    (text : String)
    (hholding : Holding tx? live line world others)
    (hnext : ∀ left, Holding tx? live (line.submitFrame framed text).2 left others →
      (next (line.submitFrame framed text).1).Meets contract left others) :
    (Network.postFrame Wire.network live framed text >>= next).Meets contract world others := by
  cases framed with
  | false => exact hnext world hholding
  | true =>
      change ((Network.request Wire.network live (.script text) >>= _) >>= _).Meets _ _ _
      rw [Task.bind_assoc]
      exact meets_request_bind (.script text) hholding hnext

/-- The wait for the replies to posted statements ends with what the line then knows of them. -/
theorem meets_outcomes
    (hsound : Sound world.driver (⟨tx?, live, line⟩ :: others))
    (posted : List (StatementKind × Posted)) :
    (Network.outcomes live posted).Meets
      (onLine tx? live (line.Grows []) fun results later =>
        line.Grows [] later ∧ later.LearnedAll posted results) world others := by
  induction posted generalizing world line others with
  | nil => exact ⟨_, hsound.holding, hsound.grown_self, .nil⟩
  | cons first rest ih =>
      refine meets_bind_on (meets_outcome hsound first.2) (fun _ hlater => hlater) ?_
      rintro result later left others' hholding ⟨hgrows, hresult⟩
      refine meets_bind_on (ih hholding.sound) (fun _ hlatest => hgrows.trans_still hlatest) ?_
      rintro results latest left others' hholding ⟨hlatest, hresults⟩
      refine meets_pure_on hholding ⟨hgrows.trans_still hlatest, ?_⟩
      exact .cons ⟨rfl, hresult.grow hlatest⟩ hresults

theorem meets_frameOutcome
    (hsound : Sound world.driver (⟨tx?, live, line⟩ :: others))
    (posted : Option Posted) :
    (Network.frameOutcome live posted).Meets
      (onLine tx? live (line.Grows []) fun result later =>
        line.Grows [] later ∧ later.LearnedFrame posted result) world others := by
  cases posted with
  | none => exact ⟨_, hsound.holding, hsound.grown_self, trivial⟩
  | some posted =>
      refine meets_bind_on (meets_outcome hsound posted) (fun _ hlater => hlater) ?_
      rintro result later left others' hholding ⟨hgrows, hresult⟩
      exact meets_pure_on hholding ⟨hgrows, hresult⟩

/-- A script is posted at once, and its answer is what the line then knows of it. -/
theorem meets_runScript
    (text : String)
    (hholding : Holding tx? live line world others) :
    (Network.runScript Wire.network live text).Meets
      (onLine tx? live ((line.submit (.script text)).2.Grows [])
        fun answer later => line.Scripted text later answer) world others := by
  refine meets_request_bind (.script text) hholding fun left hleft => ?_
  refine meets_bind_on (meets_outcome hleft.sound _) (fun _ hlater => hlater) ?_
  rintro result later left others' hholding ⟨hgrows, hresult⟩
  cases result with
  | ok reply => exact meets_pure_on hholding ⟨hgrows, _, hresult, rfl⟩
  | error fault => exact meets_pure_on hholding ⟨hgrows, _, hresult, rfl⟩

/-- A pipeline is posted at once, and its answers are what the line then knows of it. -/
theorem meets_pipeline
    (statements : List Statement)
    (framed : Bool)
    (hholding : Holding tx? live line world others) :
    (Network.pipeline Wire.network live statements framed).Meets
      (onLine tx? live (fun later => (line.pipelined statements framed).Grows [] later)
        fun answers later => line.Piped statements framed later answers) world others := by
  refine meets_postFrame_bind framed "BEGIN" hholding fun left hleft => ?_
  refine meets_postAll_bind statements hleft fun left hleft => ?_
  refine meets_postFrame_bind framed "COMMIT" hleft fun left hleft => ?_
  refine meets_bind_on (meets_frameOutcome hleft.sound _) (fun _ hlater => hlater) ?_
  rintro begun first left others₁ hholding ⟨hbegun, hopening⟩
  refine meets_bind_on (meets_outcomes hholding.sound _) (fun _ => hbegun.trans_still) ?_
  rintro results second left others₂ hholding ⟨hresults, hmiddle⟩
  have hsecond := hbegun.trans_still hresults
  refine meets_bind_on (meets_frameOutcome hholding.sound _) (fun _ => hsecond.trans_still) ?_
  rintro committed third left others₃ hholding ⟨hcommitted, hclosing⟩
  refine meets_pure_on hholding ⟨hsecond.trans_still hcommitted, begun, results, committed, ?_, ?_,
    hclosing, rfl⟩
  · exact (hopening.grow hresults).grow hcommitted
  · exact hmiddle.grow hcommitted

end Requests

end Postgres
end QueryBatch
