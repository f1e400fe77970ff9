import QueryBatch.Proofs.Batch.Contract

/-!
# Admission to a batch

A query enters a batch through one of four calls. Each makes the same four checks in the same order:
of the expectation, of the decoder, of the arguments, and of the batch, which must not be sent yet.
The calls differ in the values that they check against (`Entrance.admits`, `Entrance.reads`), and
`entered_enter` tells once what all of them do.

A query that passes is appended as one statement. One that fails is reported with the error of the
first check that it fails, and leaves batch and store as they were, so a callback that catches the
error may go on queueing.
-/

namespace QueryBatch

variable {σ ρ S α γ : Type}

section Defs

/-- A call that queues a query, with the slot that it fills. -/
inductive Entrance (S α : Type)
  | queue (slot : Slot S α)
  | queueMany (slot : Slot S (List α))
  | queueExec
  | queueExecInto (slot : Slot S Nat)

namespace Entrance

/-- Queue a query. -/
def enter (query : TypedQuery ρ α) : Entrance S α → Queueing σ ρ S Unit
  | queue slot => query.queue slot
  | queueMany slot => query.queueMany slot
  | queueExec => query.queueExec
  | queueExecInto slot => query.queueExecInto slot

/-- The expectations that a call is meant for. -/
def admits : Entrance S α → List Expectation
  | queue _ => [.one]
  | queueMany _ => [.many]
  | queueExec | queueExecInto _ => [.exec, .execOneRow]

/-- Whether a call is for rows, which take a decoder to read. -/
def reads : Entrance S α → Bool
  | queue _ | queueMany _ => true
  | queueExec | queueExecInto _ => false

/-- How the statement of a call is run. -/
def kind : Entrance S α → StatementKind
  | queue _ | queueMany _ => .query
  | queueExec | queueExecInto _ => .exec

/-- How a call is named in an error. -/
def method : Entrance S α → Method
  | queue _ => .queue
  | queueMany _ => .queueMany
  | queueExec | queueExecInto _ => .queueExec

/-- Check that a query is one for a call. -/
def checked (query : TypedQuery ρ α) : Entrance S α → Except Error Unit
  | queue _ => (fun _ => ()) <$> query.decoderFor .queue .one
  | queueMany _ => (fun _ => ()) <$> query.decoderFor .queueMany .many
  | queueExec | queueExecInto _ => (fun _ => ()) <$> query.checkExec

end Entrance

/-- What a call checks before it queues a statement. -/
inductive Check
  | expectation
  | decoder
  | arguments
  | unsent
  deriving DecidableEq

namespace Check

/-- The place of a check in the order of all. -/
def place : Check → Nat
  | expectation => 0
  | decoder => 1
  | arguments => 2
  | unsent => 3

variable (entrance : Entrance S α) (query : TypedQuery ρ α)

/-- A query passes a check. -/
def Passes (batch : Batch ρ S) : Check → Prop
  | expectation => query.expect ∈ entrance.admits
  | decoder => query.decode.isSome = entrance.reads
  | arguments => ∃ sql, query.args.bind query.text = .ok sql
  | unsent => batch.sent = false

/-- What is reported if a query does not pass a check. -/
def Reports : Check → Error → Prop
  | expectation, e => e = .expectationMismatch entrance.method query.expect
  | decoder, e =>
      e = if entrance.reads then .missingDecoder query.expect else .unexpectedDecoder query.expect
  | arguments, e => ∃ missing, query.args.bind query.text = .error missing ∧ e = .arguments missing
  | unsent, e => e = .batchSent

/-- The first check that a query does not pass is reported with an error. -/
def FirstReports (batch : Batch ρ S) (e : Error) : Prop :=
  ∃ check : Check, ¬ check.Passes entrance query batch ∧ check.Reports entrance query e ∧
    ∀ earlier : Check, earlier.place < check.place → earlier.Passes entrance query batch

end Check
end Defs

section Runs

variable {entrance : Entrance S α} {query : TypedQuery ρ α}

/-- A batch that was sent takes no more statements. -/
theorem Queueing.runOn_append_sent
    {batch : Batch ρ S}
    (hsent : batch.sent = true)
    (world : World σ S)
    (entry : Entry ρ S) :
    (append entry : Queueing σ ρ S Unit).runOn (batch, world)
      = (.error .batchSent, batch, world) := by
  have hqueue : batch.queue entry = .error .batchSent := by
    simp [Batch.queue, hsent]
  have hget : (get : Queueing σ ρ S _).runOn (batch, world) = (.ok (batch, world), batch, world) :=
    rfl
  unfold append
  rw [runOn_bind, hget]
  simp only [hqueue]
  rfl

/-- How a call ends whose query was checked with a result. -/
inductive Entered (kind : StatementKind) (query : TypedQuery ρ α) (batch : Batch ρ S)
    (world : World σ S) :
    Except Error Unit → Except Error Unit × Batch ρ S × World σ S → Prop
  | refused
      (e : Error) :
      Entered kind query batch world (.error e) (.error e, batch, world)
  | unbound
      {missing : Sql.MissingArgument}
      (hbind : query.args.bind query.text = .error missing) :
      Entered kind query batch world (.ok ()) (.error (.arguments missing), batch, world)
  | late
      {sql : Sql}
      (hbind : query.args.bind query.text = .ok sql)
      (hsent : batch.sent = true)
      (notes : List Note) :
      Entered kind query batch world (.ok ())
        (.error .batchSent, batch, { world with notes := notes })
  | queued
      {sql : Sql}
      {entry : Entry ρ S}
      (hbind : query.args.bind query.text = .ok sql)
      (hsent : batch.sent = false)
      (hstatement : entry.statement = ⟨sql, kind⟩)
      (notes : List Note) :
      Entered kind query batch world (.ok ())
        (.ok (), { batch with entries := batch.entries ++ [entry] }, { world with notes := notes })

/-- A query that is checked, bound and appended, as in every call. -/
theorem entered_of
    (checked : Except Error γ)
    (query : TypedQuery ρ α)
    (kind : StatementKind)
    (resolve : γ → Answer ρ → Except Error (S → S))
    (batch : Batch ρ S)
    (world : World σ S) :
    Entered kind query batch world ((fun _ => ()) <$> checked)
      (Queueing.runOn (do
        let c ← Queueing.ofExcept checked
        let statement ← query.statement kind
        Queueing.append ⟨statement, resolve c⟩) (batch, world)) := by
  obtain ⟨notes, hstatement⟩ := query.runOn_statement kind batch world
  rw [Queueing.runOn_bind, Queueing.runOn_ofExcept]
  cases checked with
  | error e => exact .refused e
  | ok c =>
      dsimp only
      rw [Queueing.runOn_bind, hstatement]
      cases hbind : query.args.bind query.text with
      | error missing => exact .unbound hbind
      | ok sql =>
          cases hsent : batch.sent with
          | true =>
              dsimp only
              rw [Queueing.runOn_append_sent hsent]
              exact .late hbind hsent notes
          | false =>
              dsimp only
              rw [Queueing.runOn_append hsent]
              exact .queued hbind hsent rfl notes

/-- What all calls do. -/
theorem entered_enter
    (entrance : Entrance S α)
    (query : TypedQuery ρ α)
    (batch : Batch ρ S)
    (world : World σ S) :
    Entered entrance.kind query batch world (entrance.checked query)
      ((entrance.enter query).runOn (batch, world)) := by
  cases entrance with
  | queue slot =>
      exact entered_of (query.decoderFor .queue .one) query .query
        (fun decode answer => slot.fill <$> TypedQuery.resolveOne decode answer) batch world
  | queueMany slot =>
      exact entered_of (query.decoderFor .queueMany .many) query .query
        (fun decode answer => slot.fill <$> TypedQuery.resolveMany decode answer) batch world
  | queueExec =>
      exact entered_of query.checkExec query .exec _ batch world
  | queueExecInto slot =>
      exact entered_of query.checkExec query .exec _ batch world

end Runs

section Checks

variable {entrance : Entrance S α} {query : TypedQuery ρ α} {batch : Batch ρ S}

/-- The first two checks, of the query alone. -/
theorem Entrance.checked_eq
    (entrance : Entrance S α)
    (query : TypedQuery ρ α) :
    entrance.checked query
      = if query.expect ∈ entrance.admits then
          if query.decode.isSome = entrance.reads then .ok ()
          else .error (if entrance.reads then .missingDecoder query.expect
            else .unexpectedDecoder query.expect)
        else .error (.expectationMismatch entrance.method query.expect) := by
  obtain ⟨text, args, decode, expect⟩ := query
  cases entrance <;> cases expect <;> cases decode <;> rfl

theorem Check.place_injective
    {check other : Check}
    (hplace : check.place = other.place) :
    check = other := by
  cases check <;> cases other <;> first | rfl | cases hplace

/-- At most one error is that of the first check that a query does not pass. -/
theorem Check.FirstReports.unique
    {e other : Error}
    (hfirst : FirstReports entrance query batch e)
    (hother : FirstReports entrance query batch other) :
    e = other := by
  obtain ⟨check, hfails, hreports, hbefore⟩ := hfirst
  obtain ⟨check', hfails', hreports', hbefore'⟩ := hother
  have hsame : check = check' := by
    rcases Nat.lt_trichotomy check.place check'.place with hlt | heq | hgt
    · exact absurd (hbefore' check hlt) hfails
    · exact place_injective heq
    · exact absurd (hbefore check' hgt) hfails'
  subst hsame
  cases check with
  | expectation => exact hreports.trans hreports'.symm
  | decoder => exact hreports.trans hreports'.symm
  | arguments =>
      obtain ⟨missing, hmissing, rfl⟩ := hreports
      obtain ⟨missing', hmissing', rfl⟩ := hreports'
      rw [hmissing] at hmissing'
      cases hmissing'
      rfl
  | unsent => exact hreports.trans hreports'.symm

theorem Check.passes_before_expectation :
    ∀ earlier : Check, earlier.place < expectation.place →
      earlier.Passes entrance query batch :=
  fun _ hearlier => absurd hearlier (Nat.not_lt_zero _)

/-- What passes a check and all before it passes all before the next one. -/
theorem Check.passes_before_next
    {check next : Check}
    (hnext : next.place = check.place + 1)
    (hbefore : ∀ earlier : Check, earlier.place < check.place →
      earlier.Passes entrance query batch)
    (hcheck : check.Passes entrance query batch) :
    ∀ earlier : Check, earlier.place < next.place → earlier.Passes entrance query batch := by
  intro earlier hearlier
  rw [hnext, Nat.lt_succ_iff_lt_or_eq] at hearlier
  rcases hearlier with hlt | hsame
  · exact hbefore earlier hlt
  · rw [place_injective hsame]
    exact hcheck

/-- A query passes the checks that come before the one of its arguments if it is one for the
call. -/
theorem Check.passes_of_checked
    (batch : Batch ρ S)
    (hchecked : entrance.checked query = .ok ()) :
    expectation.Passes entrance query batch ∧ decoder.Passes entrance query batch := by
  rw [Entrance.checked_eq] at hchecked
  split at hchecked
  · next hexpect =>
      split at hchecked
      · next hdecode => exact ⟨hexpect, hdecode⟩
      · cases hchecked
  · cases hchecked

theorem Check.firstReports_of_checked
    {e : Error}
    (hchecked : entrance.checked query = .error e) :
    FirstReports entrance query batch e := by
  rw [Entrance.checked_eq] at hchecked
  split at hchecked
  · next hexpect =>
      split at hchecked
      · cases hchecked
      · next hdecode =>
          cases hchecked
          exact ⟨decoder, hdecode, rfl,
            passes_before_next rfl passes_before_expectation hexpect⟩
  · next hexpect =>
      cases hchecked
      exact ⟨expectation, hexpect, rfl, passes_before_expectation⟩

end Checks

section Calls

/-- A call appends a statement if its query passes all checks, and else reports the first that the
query does not pass. -/
theorem enter_ends
    (entrance : Entrance S α)
    (query : TypedQuery ρ α)
    (batch : Batch ρ S)
    (world : World σ S) :
    (∃ sql entry notes, query.args.bind query.text = .ok sql ∧
      entry.statement = ⟨sql, entrance.kind⟩ ∧
      (∀ check : Check, check.Passes entrance query batch) ∧
      (entrance.enter query).runOn (batch, world)
        = (.ok (), { batch with entries := batch.entries ++ [entry] },
            { world with notes := notes })) ∨
    ∃ e notes, Check.FirstReports entrance query batch e ∧
      (entrance.enter query).runOn (batch, world)
        = (.error e, batch, { world with notes := notes }) := by
  have hentered := entered_enter entrance query batch world
  generalize (entrance.enter query).runOn (batch, world) = out at hentered ⊢
  cases hchecked : entrance.checked query with
  | error e =>
      rw [hchecked] at hentered
      cases hentered with
      | refused e =>
          exact .inr ⟨e, world.notes, Check.firstReports_of_checked hchecked, rfl⟩
  | ok _ =>
      obtain ⟨hexpect, hdecode⟩ := Check.passes_of_checked batch hchecked
      have hbefore : ∀ earlier : Check, earlier.place < Check.arguments.place →
          earlier.Passes entrance query batch :=
        Check.passes_before_next rfl
          (Check.passes_before_next rfl Check.passes_before_expectation hexpect) hdecode
      rw [hchecked] at hentered
      cases hentered with
      | unbound hbind =>
          refine .inr ⟨_, world.notes, ⟨.arguments, ?_, ⟨_, hbind, rfl⟩, hbefore⟩, rfl⟩
          rintro ⟨sql, hsql⟩
          rw [hbind] at hsql
          cases hsql
      | late hbind hsent notes =>
          refine .inr ⟨_, notes, ⟨.unsent, fun hunsent => ?_, rfl,
            Check.passes_before_next rfl hbefore ⟨_, hbind⟩⟩, rfl⟩
          cases hsent.symm.trans hunsent
      | @queued sql entry hbind hsent hstatement notes =>
          refine .inl ⟨sql, entry, notes, hbind, hstatement, fun check => ?_, rfl⟩
          cases check with
          | expectation => exact hexpect
          | decoder => exact hdecode
          | arguments => exact ⟨sql, hbind⟩
          | unsent => exact hsent

/-- A call succeeds exactly if its query passes all checks. It appends one statement then, the bound
text, behind those of the batch. If it fails it reports the first check that the query does not
pass and leaves the batch as it is. Either way nothing but the log is changed besides, so the slots
in the store stay as they are. -/
theorem queueing_checks_before_it_appends
    (entrance : Entrance S α)
    (query : TypedQuery ρ α)
    (batch : Batch ρ S)
    (world : World σ S) :
    let out := (entrance.enter query).runOn (batch, world)
    (out.1 = .ok () ↔ ∀ check : Check, check.Passes entrance query batch) ∧
    (out.1 = .ok () → ∃ sql entry, query.args.bind query.text = .ok sql ∧
      entry.statement = ⟨sql, entrance.kind⟩ ∧
      out.2.1 = { batch with entries := batch.entries ++ [entry] }) ∧
    (∀ e, out.1 = .error e ↔ Check.FirstReports entrance query batch e) ∧
    (∀ e, out.1 = .error e → out.2.1 = batch) ∧
    ∃ notes, out.2.2 = { world with notes := notes } := by
  intro out
  obtain ⟨sql, entry, notes, hbind, hstatement, hpasses, hout⟩ | ⟨e, notes, hfirst, hout⟩ :=
    enter_ends entrance query batch world
  · have hresult : out = _ := hout
    rw [hresult]
    refine ⟨⟨fun _ => hpasses, fun _ => rfl⟩, ?_, ?_, ?_, notes, rfl⟩
    · exact fun _ => ⟨sql, entry, hbind, hstatement, rfl⟩
    · intro e
      constructor
      · exact nofun
      · rintro ⟨check, hfails, -⟩
        exact absurd (hpasses check) hfails
    · exact nofun
  · have hresult : out = _ := hout
    rw [hresult]
    refine ⟨⟨nofun, fun hpasses => ?_⟩, nofun, ?_, fun _ _ => rfl, notes, rfl⟩
    · obtain ⟨check, hfails, -⟩ := hfirst
      exact absurd (hpasses check) hfails
    · intro other
      constructor
      · exact fun h => Except.error.inj h ▸ hfirst
      · exact fun hother => congrArg Except.error (hfirst.unique hother)

end Calls
end QueryBatch
