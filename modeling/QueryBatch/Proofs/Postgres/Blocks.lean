import QueryBatch.Proofs.Postgres.Answers

/-!
# What a block leaves

A block that was opened on a quiet line holds the effects of its statements until it ends. If the
server accepted all of them and then the commit, they are committed in order; otherwise nothing is.
That is so as well if the client never learns what became of the end of the block
(`Line.Unconfirmed.committed`).
-/

namespace QueryBatch
namespace Postgres

section Defs

/-- Whether a request was accepted. -/
def Ran.accepted (ran : Ran) : Bool :=
  match ran.verdict with
  | .accepted _ => true
  | .refused => false

/-- The effect of a statement that was accepted. -/
def Ran.effect? (ran : Ran) : Option String :=
  match ran.request, ran.verdict with
  | .statement sql, .accepted _ => some sql.text
  | _, _ => none

/-- The effects of what was run, in order. -/
def effects (ran : List Ran) : List String := ran.filterMap Ran.effect?

/-- The texts of statements, in order. -/
def texts (statements : List Statement) : List String := statements.map fun s => s.sql.text

/-- What was run is statements only. -/
def OnlyStatements (ran : List Ran) : Prop :=
  ∃ statements : List Statement, ran.map Ran.request = statements.map requestOf

/-- A line since a block was opened on it and statements were posted in it, some of which are known
to be accepted. -/
structure Line.InBlock (start : Line) (kept : List String) (line : Line) : Prop where
  grows : ∃ sent : List Statement, start.Grows (.script "BEGIN" :: sent.map requestOf) line
  begun : ∃ reply told,
    line.told.drop start.posted.length = ⟨.script "BEGIN", .accepted reply⟩ :: told
  kept : kept.Sublist (effects (line.told.drop start.posted.length))

/-- A line on which a block was opened and ended, with what was run in it and its last request, and
the statements that are known to be accepted. -/
structure Line.Ended (start : Line) (kept : List String) (block : List Ran) (text : String)
    (later : Line) : Prop where
  ran : ∃ reply answer, later.ran = start.ran
    ++ ⟨.script "BEGIN", .accepted reply⟩ :: (block ++ [⟨.script text, .accepted answer⟩])
  statements : OnlyStatements block
  kept : kept.Sublist (effects block)
  outside : (replay start.ran).block = .none
  settled : later.inbox = []

/-- A line on which a block was opened, and its end posted at most, so that it may have ended. Some
of its statements are known to be accepted. -/
def Line.Unconfirmed (start : Line) (kept : List String) (text : String) (later : Line) : Prop :=
  ∃ line, start.InBlock kept line ∧ line.Attempted text later

end Defs

section Effects

variable {ran : List Ran} {statements : List Statement}

theorem effects_append
    (before after : List Ran) :
    effects (before ++ after) = effects before ++ effects after :=
  List.filterMap_append

theorem effects_script
    {text : String}
    {verdict : Verdict} :
    effects (⟨.script text, verdict⟩ :: ran) = effects ran :=
  rfl

theorem effects_concat_script
    {text : String}
    {verdict : Verdict} :
    effects (ran ++ [⟨.script text, verdict⟩]) = effects ran := by
  rw [effects_append, effects_script]
  exact List.append_nil _

theorem effects_of_accepted
    (hrequests : ran.map Ran.request = statements.map requestOf)
    (haccepted : ran.all Ran.accepted = true) :
    effects ran = texts statements := by
  induction ran generalizing statements with
  | nil =>
      obtain rfl : statements = [] := by simpa using hrequests.symm
      rfl
  | cons first rest ih =>
      cases statements with
      | nil => simp at hrequests
      | cons statement others =>
          simp only [List.map_cons, List.cons.injEq] at hrequests
          simp only [List.all_cons, Bool.and_eq_true] at haccepted
          obtain ⟨request, verdict⟩ := first
          obtain ⟨rfl, hrest⟩ := hrequests
          cases verdict with
          | refused => simp [Ran.accepted] at haccepted
          | accepted reply =>
              change statement.sql.text :: effects rest = statement.sql.text :: texts others
              rw [ih hrest haccepted.2]

theorem effects_of_accepts
    (haccepts : Accepts statements ran) :
    effects ran = texts statements := by
  induction haccepts with
  | nil => rfl
  | cons hfirst _ ih =>
      obtain ⟨reply, rfl⟩ := hfirst
      exact congrArg _ ih

end Effects

section Sessions

variable {session : Session String} {base ran : List Ran} {reply : Reply}

/-- Nothing but its end gets a failed block out of its failure. -/
theorem after_failed
    (hblock : session.block = .failed)
    (hran : OnlyStatements ran) :
    ran.foldl Session.after session = session := by
  obtain ⟨statements, hran⟩ := hran
  induction ran generalizing statements with
  | nil => rfl
  | cons first rest ih =>
      cases statements with
      | nil => simp at hran
      | cons statement others =>
          obtain ⟨request, verdict⟩ := first
          simp only [List.map_cons, List.cons.injEq] at hran
          obtain ⟨rfl, hrest⟩ := hran
          have hsame : session.after ⟨requestOf statement, verdict⟩ = session := by
            obtain ⟨block, committed⟩ := session
            obtain rfl : block = .failed := hblock
            cases verdict <;> rfl
          rw [List.foldl_cons, hsame]
          exact ih others hrest

/-- A block keeps the effects of its statements until one of them is refused. -/
theorem after_active
    {kept : List String}
    (hblock : session.block = .active kept)
    (hran : OnlyStatements ran) :
    ran.foldl Session.after session = { session with
      block := if ran.all Ran.accepted then .active (kept ++ effects ran) else .failed } := by
  obtain ⟨statements, hran⟩ := hran
  induction ran generalizing session kept statements with
  | nil => simp [effects, ← hblock]
  | cons first rest ih =>
      cases statements with
      | nil => simp at hran
      | cons statement others =>
          obtain ⟨request, verdict⟩ := first
          simp only [List.map_cons, List.cons.injEq] at hran
          obtain ⟨rfl, hrest⟩ := hran
          obtain ⟨block, committed⟩ := session
          obtain rfl : block = .active kept := hblock
          rw [List.foldl_cons]
          cases verdict with
          | accepted reply =>
              have hnext : (⟨.active kept, committed⟩ : Session String).after
                  ⟨requestOf statement, .accepted reply⟩
                    = ⟨.active (kept ++ [statement.sql.text]), committed⟩ := rfl
              rw [hnext, ih rfl others hrest]
              simp [Ran.accepted, effects, Ran.effect?, requestOf]
          | refused =>
              have hnext : (⟨.active kept, committed⟩ : Session String).after
                  ⟨requestOf statement, .refused⟩ = ⟨.failed, committed⟩ := rfl
              rw [hnext, after_failed rfl ⟨others, hrest⟩]
              simp [Ran.accepted]

/-- The session in a block that was opened outside of any. -/
theorem replay_block
    (hnone : (replay base).block = .none)
    (hran : OnlyStatements ran) :
    replay (base ++ ⟨.script "BEGIN", .accepted reply⟩ :: ran) = { replay base with
      block := if ran.all Ran.accepted then .active (effects ran) else .failed } := by
  have hbegun : (replay base).after ⟨.script "BEGIN", .accepted reply⟩
      = { replay base with block := .active [] } := by
    change (replay base).begin = _
    simp [Session.begin, hnone]
  rw [replay_append, List.foldl_cons, hbegun, after_active rfl hran, List.nil_append]

/-- A commit commits the effects of its block if it and all of them were accepted. -/
theorem committed_after_commit
    {last : Ran}
    (hnone : (replay base).block = .none)
    (hran : OnlyStatements ran)
    (hlast : last.request = .script "COMMIT") :
    (replay (base ++ ⟨.script "BEGIN", .accepted reply⟩ :: (ran ++ [last]))).committed
      = (replay base).committed
        ++ if last.accepted && ran.all Ran.accepted then effects ran else [] := by
  have hsplit : base ++ ⟨.script "BEGIN", .accepted reply⟩ :: (ran ++ [last])
      = (base ++ ⟨.script "BEGIN", .accepted reply⟩ :: ran) ++ [last] := by simp
  rw [hsplit, replay_append, replay_block hnone hran, List.foldl_cons, List.foldl_nil]
  obtain ⟨request, verdict⟩ := last
  obtain rfl : request = .script "COMMIT" := hlast
  cases verdict with
  | refused =>
      have hrolled : ∀ session : Session String, session.after ⟨.script "COMMIT", .refused⟩
          = session.rollback := fun _ => rfl
      simp [hrolled, Session.rollback, Ran.accepted]
  | accepted reply =>
      have hcommitted : ∀ session : Session String,
          session.after ⟨.script "COMMIT", .accepted reply⟩ = session.commit := fun _ => rfl
      cases hall : ran.all Ran.accepted <;> simp [hcommitted, Session.commit, Ran.accepted]

/-- A rollback commits nothing, whether or not it was accepted. -/
theorem committed_after_rollback
    {last : Ran}
    (hnone : (replay base).block = .none)
    (hran : OnlyStatements ran)
    (hlast : last.request = .script "ROLLBACK") :
    (replay (base ++ ⟨.script "BEGIN", .accepted reply⟩ :: (ran ++ [last]))).committed
      = (replay base).committed := by
  have hsplit : base ++ ⟨.script "BEGIN", .accepted reply⟩ :: (ran ++ [last])
      = (base ++ ⟨.script "BEGIN", .accepted reply⟩ :: ran) ++ [last] := by simp
  have hrolled : ∀ session : Session String, (session.after last).committed
      = session.committed := by
    intro session
    obtain ⟨request, verdict⟩ := last
    obtain rfl : request = .script "ROLLBACK" := hlast
    cases verdict <;> rfl
  rw [hsplit, replay_append, replay_block hnone hran, List.foldl_cons, List.foldl_nil, hrolled]

/-- A rollback that was accepted leaves the session as it was before the block. -/
theorem replay_after_rollback
    {answer : Reply}
    (hnone : (replay base).block = .none)
    (hran : OnlyStatements ran) :
    replay (base ++ ⟨.script "BEGIN", .accepted reply⟩
      :: (ran ++ [⟨.script "ROLLBACK", .accepted answer⟩])) = replay base := by
  have hsplit : base ++ ⟨.script "BEGIN", .accepted reply⟩
        :: (ran ++ [⟨.script "ROLLBACK", .accepted answer⟩])
      = (base ++ ⟨.script "BEGIN", .accepted reply⟩ :: ran)
        ++ [⟨.script "ROLLBACK", .accepted answer⟩] := by simp
  rw [hsplit, replay_append, replay_block hnone hran]
  exact congrArg (fun block => (⟨block, (replay base).committed⟩ : Session String)) hnone.symm

end Sessions

namespace Line

variable {line later : Line} {requests : List Request}

/-- What is committed does not depend on whether the session goes on. -/
theorem committed_session
    (line : Line) :
    line.session.committed = (replay line.ran).committed := by
  unfold session
  split <;> rfl

theorem eq_accepted
    {ran : Ran}
    {request : Request}
    (hrequest : ran.request = request)
    (haccepted : ran.accepted = true) :
    ∃ reply, ran = ⟨request, .accepted reply⟩ := by
  obtain ⟨posted, verdict⟩ := ran
  obtain rfl : posted = request := hrequest
  cases verdict with
  | accepted reply => exact ⟨reply, rfl⟩
  | refused => cases haccepted

/-- What was run of statements and an end is statements only, or it is all of them and the end. -/
theorem stretch_cases
    {ran : List Ran}
    {sent : List Statement}
    {last : Request}
    (hstretch : ran.map Ran.request <+: sent.map requestOf ++ [last]) :
    OnlyStatements ran ∨ ∃ block final, ran = block ++ [final] ∧
      block.map Ran.request = sent.map requestOf ∧ final.request = last := by
  rcases List.prefix_concat_iff.mp hstretch with hall | hmiddle
  · right
    obtain ⟨block, rest, rfl, hblock, hrest⟩ := List.map_eq_append_iff.mp hall
    obtain ⟨final, rfl, hfinal⟩ := List.map_eq_singleton_iff.mp hrest
    exact ⟨block, final, rfl, hblock, hfinal⟩
  · left
    refine ⟨sent.take (ran.map Ran.request).length, ?_⟩
    rw [List.map_take]
    exact List.prefix_iff_eq_take.mp hmiddle

/-- Once the first request that was posted on a quiet line is told, the line has run a stretch of
what was posted since, and what was told since is its beginning. -/
theorem Quiet.stretch
    {opening : Ran}
    {told : List Ran}
    (hquiet : line.Quiet)
    (hgrows : line.Grows requests later)
    (htold : later.told.drop line.posted.length = opening :: told) :
    (replay line.ran).block = .none ∧ ∃ ran, later.ran = line.ran ++ opening :: ran ∧
      told <+: ran ∧ (opening :: ran).map Ran.request ++ later.inbox = requests := by
  have hlonger : line.posted.length < later.told.length := by
    have hlength := congrArg List.length htold
    simp only [List.length_drop, List.length_cons] at hlength
    omega
  have hserved : line.served = true := by
    by_contra hended
    have hran := (hgrows.ended (by simpa using hended)).2
    have hshort := List.IsPrefix.length_le later.told_prefix_ran
    have hposted : line.ran.length ≤ line.posted.length := by simp [posted]
    rw [hran] at hshort
    omega
  obtain ⟨hnone, hinbox⟩ := hquiet.served hserved
  obtain ⟨block, hblock⟩ := hgrows.ran
  have hlength : line.posted.length = line.ran.length := by simp [posted, hinbox]
  obtain ⟨more, hmore⟩ := later.told_prefix_ran
  have hstretch : block = opening :: (told ++ more) := by
    have hleft : (later.told ++ more).drop line.ran.length = opening :: told ++ more := by
      rw [List.drop_append_of_le_length (by omega), ← hlength, htold]
    have hright : (line.ran ++ block).drop line.ran.length = block := List.drop_left
    rw [← hright, hblock, ← hmore, hleft, List.cons_append]
  refine ⟨hnone, told ++ more, by rw [← hblock, hstretch], List.prefix_append _ _, ?_⟩
  have hposted := hgrows.posted
  simp only [posted, hinbox, List.append_nil, ← hblock, List.map_append,
    List.append_assoc] at hposted
  rw [← hstretch]
  exact List.append_cancel_left hposted

namespace InBlock

variable {start : Line} {kept : List String} {statements : List Statement}

theorem opened
    (hscripted : start.Scripted "BEGIN" line (.ok ())) :
    start.InBlock [] line := by
  obtain ⟨hgrows, reply, htold⟩ := hscripted.accepted
  obtain ⟨hlt, hget⟩ := List.getElem?_eq_some_iff.mp htold
  exact ⟨⟨[], hgrows⟩, ⟨reply, _, by rw [List.drop_eq_getElem_cons hlt, hget]⟩, List.nil_sublist _⟩

/-- What is posted in a block later does not change what is known. -/
theorem grow
    {sent : List Statement}
    (hblock : start.InBlock kept line)
    (hgrows : line.Grows (sent.map requestOf) later) :
    start.InBlock kept later := by
  obtain ⟨⟨before, hbefore⟩, ⟨reply, told, htold⟩, hkept⟩ := hblock
  obtain ⟨more, hmore⟩ := hgrows.told_drop htold
  refine ⟨⟨before ++ sent, ?_⟩, ⟨reply, _, hmore⟩, ?_⟩
  · simpa using hbefore.trans hgrows
  · refine hkept.trans ?_
    rw [hmore, htold]
    exact List.Sublist.filterMap _ (List.prefix_append _ _).sublist

theorem given_up
    (hblock : start.InBlock kept line)
    (hgrows : (line.pipelined statements false).Grows [] later) :
    start.InBlock kept later := by
  obtain ⟨sent, -, hsent⟩ := line.pipelined_transaction statements
  rw [hsent] at hgrows
  exact hblock.grow ((Grows.post line _).trans_still hgrows)

/-- Statements that were all answered are known to be accepted. -/
theorem answered
    {answers : List (Answer Row)}
    (hblock : start.InBlock kept line)
    (hpiped : line.Piped statements false later (.ok answers)) :
    start.InBlock (kept ++ texts statements) later := by
  obtain ⟨hgrows, ran, haccepts, hran⟩ := hpiped.accepted
  obtain ⟨hposted, hbegun, -⟩ := hblock.grow hgrows
  refine ⟨hposted, hbegun, ?_⟩
  obtain ⟨sent, hsent⟩ := hblock.grows
  obtain ⟨reply, told, htold⟩ := hbegun
  -- what was known before was told before any reply to the new statements
  have hbelow : start.posted.length ≤ line.posted.length := by simp [hsent.posted]
  have hlonger : start.posted.length ≤ later.told.length := by
    have hlength := congrArg List.length htold
    simp only [List.length_drop, List.length_cons] at hlength
    omega
  have hsplit : later.told.drop start.posted.length
      = (later.told.take line.posted.length).drop start.posted.length
        ++ later.told.drop line.posted.length := by
    conv_lhs => rw [← List.take_append_drop line.posted.length later.told]
    exact List.drop_append_of_le_length (by rw [List.length_take]; omega)
  have hbefore : line.told <+: later.told.take line.posted.length :=
    List.prefix_take_iff.mpr ⟨hgrows.told, line.length_told_le_posted⟩
  rw [hsplit, effects_append]
  refine List.Sublist.append (hblock.kept.trans ?_) ?_
  · exact (hbefore.drop _).sublist.filterMap _
  · rw [← effects_of_accepts haccepts]
    exact hran.sublist.filterMap _

/-- What was run of a block, up to some time after it was opened, and what was not is what was posted
in it and since. -/
theorem stretch
    (hquiet : start.Quiet)
    (hblock : start.InBlock kept line)
    (hgrows : line.Grows requests later) :
    ∃ reply ran, ∃ sent : List Statement,
      later.ran = start.ran ++ ⟨.script "BEGIN", .accepted reply⟩ :: ran ∧
        ran.map Ran.request ++ later.inbox = sent.map requestOf ++ requests ∧
        (replay start.ran).block = .none ∧ kept.Sublist (effects ran) := by
  obtain ⟨⟨sent, hsent⟩, ⟨reply, before, hbefore⟩, hkept⟩ := hblock
  obtain ⟨more, htold⟩ := hgrows.told_drop hbefore
  obtain ⟨hnone, ran, hran, hprefix, hrequests⟩ := hquiet.stretch (hsent.trans hgrows) htold
  refine ⟨reply, ran, sent, hran, (List.cons.inj hrequests).2, hnone, ?_⟩
  rw [hbefore, effects_script] at hkept
  have hstretch : (effects (before ++ more)).Sublist (effects ran) :=
    hprefix.sublist.filterMap _
  rw [effects_append] at hstretch
  exact hkept.trans ((List.sublist_append_left _ _).trans hstretch)

/-- A block that ends without an error has been told in full. -/
theorem ended
    {text : String}
    (hquiet : start.Quiet)
    (hblock : start.InBlock kept line)
    (hscripted : line.Scripted text later (.ok ())) :
    ∃ block, start.Ended kept block text later := by
  obtain ⟨hgrows, answer, hlast⟩ := hscripted.accepted
  obtain ⟨reply, ran, sent, hran, hrequests, hnone, hknown⟩ := hblock.stretch hquiet hgrows
  have hall := length_told_of_last hlast (by simp [hgrows.posted])
  obtain ⟨hsame, hinbox⟩ := told_eq_ran hall
  -- everything was told, so the stretch is all that was posted
  rw [hinbox, List.append_nil] at hrequests
  obtain ⟨block, final, rfl, hstatements, hfinal⟩ := List.map_eq_append_iff.mp hrequests
  obtain ⟨last, rfl, hrequest⟩ := List.map_eq_singleton_iff.mp hfinal
  obtain rfl : last = ⟨.script text, .accepted answer⟩ := by
    have hconcat : later.told
        = (start.ran ++ ⟨.script "BEGIN", .accepted reply⟩ :: block) ++ [last] := by
      rw [← hsame, hran, List.append_assoc, List.cons_append]
    have hlength : (start.ran ++ ⟨.script "BEGIN", .accepted reply⟩ :: block).length
        = line.posted.length := by
      rw [hconcat, hgrows.posted] at hall
      simp only [List.length_append, List.length_cons, List.length_nil] at hall ⊢
      omega
    rw [hconcat, ← hlength, List.getElem?_concat_length] at hlast
    exact Option.some.inj hlast
  refine ⟨block, ⟨reply, answer, hran⟩, ⟨sent, hstatements⟩, ?_, hnone, hinbox⟩
  rwa [effects_concat_script] at hknown

end InBlock

namespace Ended

variable {start : Line} {kept : List String} {block : List Ran}

theorem forget
    {fewer : List String}
    {text : String}
    (hended : start.Ended kept block text later)
    (hfewer : fewer.Sublist kept) :
    start.Ended fewer block text later :=
  ⟨hended.ran, hended.statements, hfewer.trans hended.kept, hended.outside, hended.settled⟩

theorem committed
    (hended : start.Ended kept block "COMMIT" later) :
    later.session.committed
      = start.session.committed ++ if block.all Ran.accepted then effects block else [] := by
  obtain ⟨⟨reply, answer, hran⟩, hstatements, -, hnone, -⟩ := hended
  rw [committed_session, committed_session, hran, committed_after_commit hnone hstatements rfl]
  simp [Ran.accepted]

/-- After a rollback that was accepted, everything is as if the block had never been run, whatever
is posted on the line later. -/
theorem rolled_back
    (hended : start.Ended kept block "ROLLBACK" line)
    (hgrows : line.Grows requests later) :
    ∃ after, after.map Ran.request <+: requests ∧ later.ran = line.ran ++ after ∧
      later.session.committed = (replay (start.ran ++ after)).committed := by
  obtain ⟨⟨reply, answer, hran⟩, hstatements, -, hnone, hinbox⟩ := hended
  obtain ⟨after, hafter⟩ := hgrows.ran
  refine ⟨after, ?_, hafter.symm, ?_⟩
  · have hposted := hgrows.posted
    simp only [posted, ← hafter, hinbox, List.map_append, List.append_nil, List.append_assoc]
      at hposted
    rw [← List.append_cancel_left hposted]
    exact List.prefix_append _ _
  · rw [committed_session, ← hafter, replay_append, hran, replay_after_rollback hnone hstatements,
      ← replay_append]

end Ended

/-- A block whose end was posted at most is committed as a whole or not at all, whatever happens on
its line later, and not at all if it was to be rolled back. -/
theorem Unconfirmed.committed
    {start : Line}
    {kept : List String}
    {text : String}
    (hunconfirmed : start.Unconfirmed kept text line)
    (hquiet : start.Quiet)
    (hends : text = "COMMIT" ∨ text = "ROLLBACK")
    (hgrows : line.Grows [] later) :
    later.session.committed = start.session.committed ∨
      text = "COMMIT" ∧ ∃ block, start.Ended kept block "COMMIT" later ∧
        block.all Ran.accepted = true ∧
        later.session.committed = start.session.committed ++ effects block := by
  obtain ⟨between, hblock, hattempted⟩ := hunconfirmed
  obtain ⟨requests, hprefix, hposted⟩ := hattempted.grow hgrows
  obtain ⟨reply, ran, sent, hran, hrequests, hnone, hknown⟩ := hblock.stretch hquiet hposted
  have hstretch : ran.map Ran.request <+: sent.map requestOf ++ [.script text] :=
    (hrequests ▸ List.prefix_append _ _).trans (List.prefix_append_right_inj _ |>.mpr hprefix)
  simp only [committed_session, hran]
  rcases stretch_cases hstretch with honly | ⟨block, last, rfl, hstatements, hlast⟩
  · left
    rw [replay_block hnone honly]
  · have honly : OnlyStatements block := ⟨sent, hstatements⟩
    rcases hends with rfl | rfl
    · rw [committed_after_commit hnone honly hlast]
      by_cases haccepted : (last.accepted && block.all Ran.accepted) = true
      · right
        rw [if_pos haccepted]
        obtain ⟨hcommit, hall⟩ := Bool.and_eq_true_iff.mp haccepted
        obtain ⟨answer, rfl⟩ := eq_accepted hlast hcommit
        rw [effects_concat_script] at hknown
        -- the end is the last request that was posted, so nothing is left to run
        have hinbox : later.inbox = [] := by
          simp only [List.map_append, hstatements, List.append_assoc] at hrequests
          have hrest := List.IsPrefix.length_le (List.append_cancel_left hrequests ▸ hprefix)
          simpa using hrest
        exact ⟨rfl, block, ⟨⟨reply, answer, hran⟩, honly, hknown, hnone, hinbox⟩, hall, rfl⟩
      · left
        rw [if_neg haccepted, List.append_nil]
    · left
      exact committed_after_rollback hnone honly hlast

end Line
end Postgres
end QueryBatch
