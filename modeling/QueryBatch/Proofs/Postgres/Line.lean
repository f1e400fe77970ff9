import Mathlib
import QueryBatch.Postgres.Driver
import QueryBatch.Postgres.Session

/-!
# Both ends of a connection

A `Line` is a connection with all that was ever posted on it. The server runs the requests in the
order of posting and makes of each what it likes, except that in a failed block it refuses
everything but the end of the block. The client is told the outcomes in the same order, some time
later or never. The server may end its session at any time, and the client may lose or leave the
connection at any time; what was posted before is still run then.

`Line.Grows` is what happens to a line between two moments, and `Line.Quiet` is what the next user
of a line needs: no block is open, and nothing is left to run.
-/

namespace QueryBatch
namespace Postgres

inductive Verdict
  | accepted (reply : Reply)
  | refused

structure Ran where
  request : Request
  verdict : Verdict

/-- What is in the two ends of a connection. -/
structure Line where
  /-- Whether the client takes the connection for open. -/
  up : Bool := true
  /-- Whether the session of the server goes on. -/
  served : Bool := true
  /-- What was run and told to the client, in order. -/
  told : List Ran := []
  /-- What was run after that, in order. -/
  untold : List Ran := []
  /-- What was posted and not run, in order. -/
  inbox : List Request := []

/-- What can happen on a line without its user. -/
inductive Line.Move
  | run (verdict : Verdict)
  /-- The client is told of the next request that was run. -/
  | tell
  | hangUp
  | lose

section Defs

/-- What the client is told of a request that was run. -/
def Ran.answer (ran : Ran) : Result :=
  match ran.verdict with
  | .accepted reply => .ok reply
  | .refused => .error .refused

def Session.after (session : Session String) (ran : Ran) : Session String :=
  match ran.verdict with
  | .accepted _ => session.afterSuccess ran.request
  | .refused => session.afterFailure ran.request

/-- The session in which requests were run. -/
def replay (ran : List Ran) : Session String := ran.foldl Session.after {}

namespace Line

def ran (line : Line) : List Ran := line.told ++ line.untold

/-- Everything that was posted, in order. -/
def posted (line : Line) : List Request := line.ran.map Ran.request ++ line.inbox

/-- The session of the server. When it ends, an open block is undone. -/
def session (line : Line) : Session String :=
  if line.served then replay line.ran else (replay line.ran).rollback

/-- What the server has still to run. -/
def pending (line : Line) : List Request := if line.served then line.inbox else []

/-- The server is outside of any block and has nothing left to run. -/
def Quiet (line : Line) : Prop := line.session.block = .none ∧ line.pending = []

/-- What the client learns of the request at a position, if anything yet. -/
def reply? (line : Line) (position : Nat) : Option Result :=
  match line.told[position]? with
  | some ran => some ran.answer
  | none => if line.up then none else some (.error .closed)

def post (requests : List Request) (line : Line) : Line :=
  { line with inbox := line.inbox ++ requests }

/-- Post a request if the client can, and answer its position. -/
def submit (request : Request) (line : Line) : Posted × Line :=
  match unwritable? request with
  | some fault => (.error fault, line)
  | none =>
      if line.up then (.ok line.posted.length, line.post [request]) else (.error .closed, line)

/-- What a server makes of the next request if it is free to. -/
def verdictOn (line : Line) (request : Request) (verdict : Verdict) : Verdict :=
  if line.session.refuses && !request.endsBlock then .refused else verdict

def step (line : Line) : Move → Line
  | .run verdict =>
      match line.served, line.inbox with
      | true, request :: rest =>
          { line with
            untold := line.untold ++ [⟨request, line.verdictOn request verdict⟩]
            inbox := rest }
      | _, _ => line
  | .tell =>
      match line.up, line.untold with
      | true, ran :: rest => { line with told := line.told ++ [ran], untold := rest }
      | _, _ => line
  | .hangUp => { line with served := false }
  | .lose => { line with up := false }

/-- A line some time later, when requests were posted meanwhile. -/
structure Grows (line : Line) (requests : List Request) (later : Line) : Prop where
  told : line.told <+: later.told
  ran : line.ran <+: later.ran
  posted : later.posted = line.posted ++ requests
  lost : line.up = false → later.up = false ∧ later.told = line.told
  ended : line.served = false → later.served = false ∧ later.ran = line.ran

end Line

/-- A script that neither opens nor ends a block. -/
def Plain (text : String) : Prop := text ≠ "BEGIN" ∧ text ≠ "COMMIT" ∧ text ≠ "ROLLBACK"

end Defs

section Sessions

variable {session : Session String} {ran : Ran}

theorem replay_append
    (before after : List Ran) :
    replay (before ++ after) = after.foldl Session.after (replay before) :=
  List.foldl_append

/-- The end of a block ends it, whatever comes of it. -/
theorem block_after_end
    (hends : ran.request.endsBlock = true) :
    (session.after ran).block = .none := by
  obtain ⟨request, verdict⟩ := ran
  cases request with
  | statement sql => simp [Request.endsBlock] at hends
  | script text =>
      simp only [Request.endsBlock, decide_eq_true_eq] at hends
      rcases hends with rfl | rfl <;> cases verdict <;>
        simp [Session.after, Session.afterSuccess, Session.afterScript, Session.afterFailure,
          Request.endsBlock, Session.rollback, Session.commit]
      cases session.block <;> rfl

theorem afterScript_plain
    {text : String}
    (hplain : Plain text) :
    session.afterScript text = session ∨ session.afterScript text = session.succeed text := by
  obtain ⟨hbegin, hcommit, hrollback⟩ := hplain
  unfold Session.afterScript
  split <;> simp_all

/-- Outside of a block a statement opens none. -/
theorem block_after_statement
    {sql : Sql}
    {verdict : Verdict}
    (hblock : session.block = .none) :
    (session.after ⟨.statement sql, verdict⟩).block = .none := by
  cases verdict <;>
    simp [Session.after, Session.afterSuccess, Session.afterFailure, Request.endsBlock,
      Session.succeed, Session.fail, hblock]

/-- Outside of a block a plain script opens none. -/
theorem block_after_plain
    {text : String}
    {verdict : Verdict}
    (hplain : Plain text)
    (hblock : session.block = .none) :
    (session.after ⟨.script text, verdict⟩).block = .none := by
  cases verdict with
  | refused =>
      have hends : (Request.script text).endsBlock = false := by
        simp [Request.endsBlock, hplain.2.1, hplain.2.2]
      simp [Session.after, Session.afterFailure, hends, Session.fail, hblock]
  | accepted reply =>
      have hafter : session.afterScript text = session ∨
          session.afterScript text = session.succeed text := afterScript_plain hplain
      rcases hafter with hsame | heffect
      · simp [Session.after, Session.afterSuccess, hsame, hblock]
      · simp [Session.after, Session.afterSuccess, heffect, Session.succeed, hblock]

end Sessions

namespace Line

variable {line later latest : Line} {requests further : List Request} {position : Nat}

@[simp]
theorem ran_post : (line.post requests).ran = line.ran :=
  rfl

@[simp]
theorem told_post : (line.post requests).told = line.told :=
  rfl

@[simp]
theorem up_post : (line.post requests).up = line.up :=
  rfl

@[simp]
theorem posted_post : (line.post requests).posted = line.posted ++ requests := by
  simp [posted, post, ran]

theorem told_prefix_ran : line.told <+: line.ran :=
  List.prefix_append _ _

theorem length_told_le_posted : line.told.length ≤ line.posted.length := by
  simp only [posted, ran, List.length_append, List.length_map]
  omega

/-- What was told at a position is of the request that was posted there. -/
theorem posted_of_told
    {ran : Ran}
    (htold : line.told[position]? = some ran) :
    line.posted[position]? = some ran.request := by
  have hlt : position < line.told.length := (List.getElem?_eq_some_iff.mp htold).1
  simp only [posted, Line.ran, List.map_append, List.append_assoc]
  rw [List.getElem?_append_left (by simpa using hlt), List.getElem?_map, htold]
  rfl

/-- If as much was told as was posted, nothing is left. -/
theorem told_eq_ran
    (hall : line.told.length = line.posted.length) :
    line.ran = line.told ∧ line.inbox = [] := by
  simp only [posted, ran, List.length_append, List.length_map] at hall
  have huntold : line.untold = [] := List.eq_nil_of_length_eq_zero (by omega)
  have hinbox : line.inbox = [] := List.eq_nil_of_length_eq_zero (by omega)
  simp [ran, huntold, hinbox]

/-- An acceptance that the client has learned of was told. -/
theorem told_of_accepted
    {reply : Reply}
    (hreply : line.reply? position = some (.ok reply)) :
    ∃ request, line.told[position]? = some ⟨request, .accepted reply⟩ := by
  unfold reply? at hreply
  cases htold : line.told[position]? with
  | none =>
      rw [htold] at hreply
      cases hup : line.up <;> simp [hup] at hreply
  | some ran =>
      obtain ⟨request, verdict⟩ := ran
      rw [htold] at hreply
      cases verdict with
      | accepted other =>
          simp only [Ran.answer, Option.some.injEq, Except.ok.injEq] at hreply
          exact ⟨request, by rw [hreply]⟩
      | refused => simp [Ran.answer] at hreply

/-- A fault that the client has learned of is a refusal that was told, or the connection is
lost. -/
theorem told_of_fault
    {fault : Fault}
    (hreply : line.reply? position = some (.error fault)) :
    (fault = .refused ∧ ∃ request, line.told[position]? = some ⟨request, .refused⟩) ∨
      (fault = .closed ∧ line.up = false) := by
  unfold reply? at hreply
  cases htold : line.told[position]? with
  | none =>
      rw [htold] at hreply
      cases hup : line.up with
      | true => simp [hup] at hreply
      | false =>
          right
          simpa [hup, eq_comm] using hreply
  | some ran =>
      obtain ⟨request, verdict⟩ := ran
      rw [htold] at hreply
      cases verdict with
      | accepted other => simp [Ran.answer] at hreply
      | refused =>
          left
          exact ⟨by simpa [Ran.answer, eq_comm] using hreply, request, rfl⟩

/-- Once the last request is told, as much is told as was posted. -/
theorem length_told_of_last
    {ran : Ran}
    (htold : line.told[position]? = some ran)
    (hlast : line.posted.length = position + 1) :
    line.told.length = line.posted.length := by
  have hlt : position < line.told.length := (List.getElem?_eq_some_iff.mp htold).1
  have hle := line.length_told_le_posted
  omega

namespace Grows

protected theorem refl
    (line : Line) :
    line.Grows [] line :=
  ⟨List.prefix_rfl, List.prefix_rfl, by simp, fun h => ⟨h, rfl⟩, fun h => ⟨h, rfl⟩⟩

protected theorem trans
    (hfirst : line.Grows requests later)
    (hsecond : later.Grows further latest) :
    line.Grows (requests ++ further) latest where
  told := hfirst.told.trans hsecond.told
  ran := hfirst.ran.trans hsecond.ran
  posted := by rw [hsecond.posted, hfirst.posted, List.append_assoc]
  lost hlost := by
    obtain ⟨hup, htold⟩ := hfirst.lost hlost
    obtain ⟨hup', htold'⟩ := hsecond.lost hup
    exact ⟨hup', htold'.trans htold⟩
  ended hended := by
    obtain ⟨hserved, hran⟩ := hfirst.ended hended
    obtain ⟨hserved', hran'⟩ := hsecond.ended hserved
    exact ⟨hserved', hran'.trans hran⟩

theorem trans_still
    (hfirst : line.Grows requests later)
    (hsecond : later.Grows [] latest) :
    line.Grows requests latest := by
  simpa using hfirst.trans hsecond

theorem post
    (line : Line)
    (requests : List Request) :
    line.Grows requests (line.post requests) :=
  ⟨List.prefix_rfl, List.prefix_rfl, posted_post, fun h => ⟨h, rfl⟩, fun h => ⟨h, rfl⟩⟩

/-- Whatever happens on a line, nothing is posted by it and nothing that was run is undone. -/
theorem step
    (line : Line)
    (move : Move) :
    line.Grows [] (line.step move) := by
  cases move with
  | run verdict =>
      unfold Line.step
      dsimp only
      split
      · rename_i request rest hserved hinbox
        refine ⟨List.prefix_rfl, ?_, ?_, fun h => ⟨h, rfl⟩, fun h => ?_⟩
        · simp only [Line.ran, ← List.append_assoc]
          exact List.prefix_append _ _
        · simp [Line.posted, Line.ran, hinbox]
        · simp [hserved] at h
      · exact .refl line
  | tell =>
      unfold Line.step
      dsimp only
      split
      · rename_i first rest hup huntold
        have hran : line.told ++ [first] ++ rest = line.ran := by simp [Line.ran, huntold]
        refine ⟨List.prefix_append _ _, ?_, ?_, fun h => ?_, fun h => ⟨h, hran⟩⟩
        · exact hran ▸ List.prefix_rfl
        · simp [Line.posted, Line.ran, huntold]
        · simp [hup] at h
      · exact .refl line
  | hangUp => exact ⟨List.prefix_rfl, List.prefix_rfl, by simp [Line.posted, Line.step, Line.ran],
      fun h => ⟨h, rfl⟩, fun _ => ⟨rfl, rfl⟩⟩
  | lose => exact ⟨List.prefix_rfl, List.prefix_rfl, by simp [Line.posted, Line.step, Line.ran],
      fun _ => ⟨rfl, rfl⟩, fun h => ⟨h, rfl⟩⟩

theorem told_at
    (hgrows : line.Grows requests later)
    {ran : Ran}
    (htold : line.told[position]? = some ran) :
    later.told[position]? = some ran := by
  obtain ⟨rest, hrest⟩ := hgrows.told
  have hlt : position < line.told.length := (List.getElem?_eq_some_iff.mp htold).1
  rw [← hrest, List.getElem?_append_left hlt, htold]

/-- What was told from a position on stays, and more may follow. -/
theorem told_drop
    (hgrows : line.Grows requests later)
    {opening : Ran}
    {told : List Ran}
    (htold : line.told.drop position = opening :: told) :
    ∃ more, later.told.drop position = opening :: (told ++ more) := by
  obtain ⟨more, hmore⟩ := hgrows.told
  have hlonger : position ≤ line.told.length := by
    have hlength := congrArg List.length htold
    simp only [List.length_drop, List.length_cons] at hlength
    omega
  exact ⟨more, by rw [← hmore, List.drop_append_of_le_length hlonger, htold, List.cons_append]⟩

/-- What the client has learned of a request stays what it is. -/
theorem reply?
    (hgrows : line.Grows requests later)
    {result : Result}
    (hreply : line.reply? position = some result) :
    later.reply? position = some result := by
  unfold Line.reply? at hreply ⊢
  cases htold : line.told[position]? with
  | some ran =>
      rw [hgrows.told_at htold]
      simpa [htold] using hreply
  | none =>
      cases hup : line.up with
      | true => simp [htold, hup] at hreply
      | false =>
          obtain ⟨hup', htold'⟩ := hgrows.lost hup
          rw [htold', htold, hup']
          simpa [htold, hup] using hreply

/-- What is run on a line with an empty inbox is what is posted there from then on. -/
theorem ran_eq
    (hgrows : line.Grows requests later)
    (hinbox : line.inbox = [])
    (hall : later.told.length = later.posted.length) :
    ∃ block, later.told = line.ran ++ block ∧ block.map Ran.request = requests := by
  obtain ⟨hran, hleft⟩ := told_eq_ran hall
  obtain ⟨block, hblock⟩ := hgrows.ran
  refine ⟨block, by rw [← hran, hblock], ?_⟩
  have hposted := hgrows.posted
  simp only [Line.posted, hinbox, hleft, List.append_nil, ← hblock, List.map_append] at hposted
  exact List.append_cancel_left hposted

end Grows

namespace Quiet

theorem blank : Quiet {} :=
  ⟨rfl, rfl⟩

theorem of_ended
    (hended : line.served = false) :
    line.Quiet := by
  simp [Quiet, session, pending, hended, Session.rollback]

/-- A quiet session that goes on has run all that was posted. -/
theorem served
    (hquiet : line.Quiet)
    (hserved : line.served = true) :
    (replay line.ran).block = .none ∧ line.inbox = [] := by
  simpa [Quiet, session, pending, hserved] using hquiet

/-- A line whose user has been told everything is quiet if no block is left open. -/
theorem of_told
    (hall : line.told.length = line.posted.length)
    (hblock : (replay line.told).block = .none) :
    line.Quiet := by
  obtain ⟨hran, hinbox⟩ := told_eq_ran hall
  cases hserved : line.served with
  | false => exact of_ended hserved
  | true => simp [Quiet, session, pending, hserved, hran, hinbox, hblock]

/-- A line is quiet once its user has been told of the end of a block, if that was posted last. -/
theorem of_end
    {ran : Ran}
    (htold : line.told[position]? = some ran)
    (hends : ran.request.endsBlock = true)
    (hlast : line.posted.length = position + 1) :
    line.Quiet := by
  have hall := length_told_of_last htold hlast
  apply of_told hall
  have hlength : line.told.length = position + 1 := hall.trans hlast
  have hsplit : line.told = line.told.take position ++ [ran] := by
    have hlt : position < line.told.length := by omega
    have hget : line.told[position] = ran := (List.getElem?_eq_some_iff.mp htold).2
    rw [← hget, List.take_append_getElem, ← hlength, List.take_length]
  rw [hsplit, replay_append]
  exact block_after_end hends

/-- A quiet line stays quiet while nothing is posted. -/
theorem still
    (hquiet : line.Quiet)
    (hgrows : line.Grows [] later) :
    later.Quiet := by
  cases hserved : later.served with
  | false => exact of_ended hserved
  | true =>
      have hserved' : line.served = true := by
        by_contra hended
        simp [(hgrows.ended (by simpa using hended)).1] at hserved
      obtain ⟨hblock, hinbox⟩ := hquiet.served hserved'
      obtain ⟨more, hmore⟩ := hgrows.ran
      have hposted := hgrows.posted
      simp only [posted, hinbox, ← hmore, List.map_append, List.append_nil, List.append_assoc]
        at hposted
      have hrest : more.map Ran.request ++ later.inbox = [] := by simpa using hposted
      have hmore' : more = [] := by simpa using (List.append_eq_nil_iff.mp hrest).1
      have hinbox' : later.inbox = [] := (List.append_eq_nil_iff.mp hrest).2
      simp [Quiet, session, pending, hserved, ← hmore, hmore', hinbox', hblock]

/-- A line is quiet again once the user has been told of all that it posted since, if no block was
left open. -/
theorem again
    (hquiet : line.Quiet)
    (hgrows : line.Grows requests later)
    (hall : later.told.length = later.posted.length)
    (hblock : ∀ block, block.map Ran.request = requests →
      (replay line.ran).block = .none → (replay (line.ran ++ block)).block = .none) :
    later.Quiet := by
  cases hserved : later.served with
  | false => exact of_ended hserved
  | true =>
      have hserved' : line.served = true := by
        by_contra hended
        simp [(hgrows.ended (by simpa using hended)).1] at hserved
      obtain ⟨hnone, hinbox⟩ := hquiet.served hserved'
      obtain ⟨block, htold, hrequests⟩ := hgrows.ran_eq hinbox hall
      apply of_told hall
      rw [htold]
      exact hblock block hrequests hnone

end Quiet
end Line
end Postgres
end QueryBatch
