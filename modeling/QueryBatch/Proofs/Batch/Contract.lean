import QueryBatch.Batch.TypedQuery
import QueryBatch.Proofs.Batch.Work

/-!
# What a queued query asks of its answer

The caller's slots are cells with names and types of their own. A query is queued in one of the
ways of `QueueCall`, and each way has a contract: `QueueCall.Meets` says which answers are as
expected, `QueueCall.Breaks` which error each other one is reported with, and `QueueCall.Fills` what
the slot holds afterwards. `QueueCall.run_eq` ties the contract to the entry that the code appends
to a batch.
-/

namespace QueryBatch

/-- The caller's slots, by name. -/
abbrev Cells {K : Type} (V : K → Type) := (k : K) → Option (V k)

/-- The name of a slot that holds values of a type. -/
structure Place {K : Type} (V : K → Type) (β : Type) where
  key : K
  holds : V key = β

/-- A way to queue a query, with the query and the place for what it answers. -/
inductive QueueCall (ρ : Type) {K : Type} (V : K → Type) : Type 1
  | one {β : Type} (query : TypedQuery ρ β) (place : Place V β)
  | many {β : Type} (query : TypedQuery ρ β) (place : Place V (List β))
  | exec {β : Type} (query : TypedQuery ρ β) (place : Option (Place V Nat))

variable {σ ρ : Type} {K : Type} {V : K → Type}

section Defs

variable [DecidableEq K]

/-- The slot of a place. -/
def Place.slot {β : Type} (place : Place V β) : Slot (Cells V) β where
  get cells := cast (congrArg Option place.holds) (cells place.key)
  set value cells :=
    Function.update cells place.key (cast (congrArg Option place.holds.symm) value)

namespace QueueCall

/-- Queue a query. -/
def run : QueueCall ρ V → Queueing σ ρ (Cells V) Unit
  | one query place => query.queue place.slot
  | many query place => query.queueMany place.slot
  | exec query none => query.queueExec
  | exec query (some place) => query.queueExecInto place.slot

/-- The name of the slot that a call fills. -/
def key? : QueueCall ρ V → Option K
  | one _ place => some place.key
  | many _ place => some place.key
  | exec _ place => place.map Place.key

/-- Whether a query is meant for the way in which it is queued. -/
def check : QueueCall ρ V → Except Error Unit
  | one query _ => (fun _ => ()) <$> query.decoderFor .queue .one
  | many query _ => (fun _ => ()) <$> query.decoderFor .queueMany .many
  | exec query _ => query.checkExec

/-- The text of a query with its arguments bound. -/
def sql : QueueCall ρ V → Except Sql.MissingArgument Sql
  | one query _ => query.args.bind query.text
  | many query _ => query.args.bind query.text
  | exec query _ => query.args.bind query.text

/-- How the statement of a call is run. -/
def kind : QueueCall ρ V → StatementKind
  | one .. | many .. => .query
  | exec .. => .exec

/-- The statement that a call queues, or why it queues none. -/
def statement (call : QueueCall ρ V) : Except Error Statement :=
  match call.check with
  | .error e => .error e
  | .ok () =>
      match call.sql with
      | .error e => .error (.arguments e)
      | .ok sql => .ok ⟨sql, call.kind⟩

/-- An answer is as a call expects: exactly one row that can be read, any number of such rows,
exactly one affected row, or any answer. -/
def Meets (answer : Answer ρ) : QueueCall ρ V → Prop
  | one query _ => ∃ decode ∈ query.decode, ∃ row b, answer.rows = [row] ∧ decode row = .ok b
  | many query _ => ∃ decode ∈ query.decode, ∀ row ∈ answer.rows, ∃ b, decode row = .ok b
  | exec query _ => query.expect = .execOneRow → answer.rowsAffected = 1

/-- An answer is not as a call expects, and this error says why. A row that cannot be read is
reported before a row too many. -/
def Breaks (answer : Answer ρ) (error : Error) : QueueCall ρ V → Prop
  | one query _ => ∃ decode ∈ query.decode,
      (answer.rows = [] ∧ error = .noRows) ∨
      (∃ row rest source, answer.rows = row :: rest ∧ decode row = .error source ∧
        error = .decode source) ∨
      (∃ row second rest b, answer.rows = row :: second :: rest ∧ decode row = .ok b ∧
        error = .tooManyRows)
  | many query _ => ∃ decode ∈ query.decode, ∃ before row after source,
      answer.rows = before ++ row :: after ∧ (∀ earlier ∈ before, ∃ b, decode earlier = .ok b) ∧
        decode row = .error source ∧ error = .decode source
  | exec query _ => query.expect = .execOneRow ∧ answer.rowsAffected ≠ 1 ∧
      error = .rowsAffected answer.rowsAffected

/-- The slot of a call holds what the answer says: the value of its row, those of its rows in
order, or the number of affected rows. -/
def Fills (answer : Answer ρ) (cells : Cells V) : QueueCall ρ V → Prop
  | one query place => ∃ decode ∈ query.decode, ∃ row b, answer.rows = [row] ∧
      decode row = .ok b ∧ place.slot.get cells = some b
  | many query place => ∃ decode ∈ query.decode, ∃ bs,
      List.Forall₂ (fun row b => decode row = .ok b) answer.rows bs ∧
        place.slot.get cells = some bs
  | exec _ place => ∀ p ∈ place, p.slot.get cells = some answer.rowsAffected

/-- What an entry of a batch makes of answers is what a call asks for. -/
def Served (call : QueueCall ρ V) (entry : Entry ρ (Cells V)) : Prop :=
  (∀ answer error, entry.resolve answer = .error error → call.Breaks answer error) ∧
    ∀ answer change, entry.resolve answer = .ok change →
      call.Meets answer ∧ ∀ cells, call.Fills answer (change cells) ∧
        ∀ k, call.key? ≠ some k → change cells k = cells k

end QueueCall
end Defs

section Slots

variable [DecidableEq K] {β : Type}

@[simp]
theorem Place.get_fill
    (place : Place V β)
    (b : β)
    (cells : Cells V) :
    place.slot.get (place.slot.fill b cells) = some b := by
  obtain ⟨key, rfl⟩ := place
  simp [Place.slot, Slot.fill]

theorem Place.fill_of_ne
    (place : Place V β)
    (b : β)
    (cells : Cells V)
    {k : K}
    (hk : some place.key ≠ some k) :
    place.slot.fill b cells k = cells k := by
  have hne : k ≠ place.key := fun heq => hk (congrArg some heq.symm)
  exact Function.update_of_ne hne _ _

end Slots

section Answers

variable {β : Type} {decode : Decoder ρ β} {answer : Answer ρ}

namespace TypedQuery

theorem decode_of_decoderFor
    {query : TypedQuery ρ β}
    {method : Method}
    {required : Expectation}
    (hdecoder : query.decoderFor method required = .ok decode) :
    query.decode = some decode := by
  unfold decoderFor at hdecoder
  split at hdecoder
  · cases hdecode : query.decode with
    | none => simp [hdecode] at hdecoder
    | some other =>
        rw [hdecode] at hdecoder
        cases hdecoder
        rfl
  · cases hdecoder

theorem rows_of_resolveOne
    {b : β}
    (hresolve : resolveOne decode answer = .ok b) :
    ∃ row, answer.rows = [row] ∧ decode row = .ok b := by
  unfold resolveOne at hresolve
  rcases hrows : answer.rows with _ | ⟨row, rest⟩
  · simp [hrows] at hresolve
  · cases hrow : decode row with
    | error source => simp [hrows, hrow] at hresolve
    | ok value =>
        cases rest with
        | nil => exact ⟨row, rfl, by simpa [hrows, hrow] using hresolve⟩
        | cons second rest => simp [hrows, hrow] at hresolve

theorem error_of_resolveOne
    {error : Error}
    (hresolve : resolveOne decode answer = .error error) :
    (answer.rows = [] ∧ error = .noRows) ∨
      (∃ row rest source, answer.rows = row :: rest ∧ decode row = .error source ∧
        error = .decode source) ∨
      (∃ row second rest b, answer.rows = row :: second :: rest ∧ decode row = .ok b ∧
        error = .tooManyRows) := by
  unfold resolveOne at hresolve
  rcases hrows : answer.rows with _ | ⟨row, rest⟩
  · left
    exact ⟨rfl, by simpa [hrows, eq_comm] using hresolve⟩
  · right
    cases hrow : decode row with
    | error source =>
        left
        exact ⟨row, rest, source, rfl, hrow, by simpa [hrows, hrow, eq_comm] using hresolve⟩
    | ok value =>
        right
        cases rest with
        | nil => simp [hrows, hrow] at hresolve
        | cons second rest =>
            refine ⟨row, second, rest, value, rfl, hrow, ?_⟩
            simpa [hrows, hrow, eq_comm] using hresolve

theorem rows_of_resolveMany
    {bs : List β}
    (hresolve : resolveMany decode answer = .ok bs) :
    List.Forall₂ (fun row b => decode row = .ok b) answer.rows bs := by
  unfold resolveMany at hresolve
  generalize answer.rows = rows at hresolve ⊢
  induction rows generalizing bs with
  | nil =>
      cases hresolve
      exact .nil
  | cons row rest ih =>
      unfold resolveMany.go at hresolve
      cases hrow : decode row with
      | error source => simp [hrow] at hresolve
      | ok value =>
          cases hrest : resolveMany.go decode rest with
          | error e => simp [hrow, hrest] at hresolve
          | ok values =>
              simp only [hrow, hrest, Except.ok.injEq] at hresolve
              subst hresolve
              exact .cons hrow (ih hrest)

theorem readable_of_forall₂
    {rows : List ρ}
    {bs : List β}
    (hrows : List.Forall₂ (fun row b => decode row = .ok b) rows bs) :
    ∀ row ∈ rows, ∃ b, decode row = .ok b := by
  induction hrows with
  | nil => simp
  | cons hrow _ ih =>
      intro row hmem
      rcases List.mem_cons.1 hmem with rfl | hrest
      · exact ⟨_, hrow⟩
      · exact ih row hrest

theorem error_of_resolveMany
    {error : Error}
    (hresolve : resolveMany decode answer = .error error) :
    ∃ before row after source, answer.rows = before ++ row :: after ∧
      (∀ earlier ∈ before, ∃ b, decode earlier = .ok b) ∧ decode row = .error source ∧
      error = .decode source := by
  unfold resolveMany at hresolve
  generalize answer.rows = rows at hresolve ⊢
  induction rows with
  | nil => cases hresolve
  | cons row rest ih =>
      unfold resolveMany.go at hresolve
      cases hrow : decode row with
      | error source =>
          refine ⟨[], row, rest, source, rfl, by simp, hrow, ?_⟩
          simpa [hrow, eq_comm] using hresolve
      | ok value =>
          cases hrest : resolveMany.go decode rest with
          | error e =>
              simp only [hrow, hrest, Except.error.injEq] at hresolve
              subst hresolve
              obtain ⟨before, bad, after, source, rfl, hbefore, hbad, herror⟩ := ih hrest
              refine ⟨row :: before, bad, after, source, rfl, ?_, hbad, herror⟩
              intro earlier hearlier
              rcases List.mem_cons.1 hearlier with rfl | hmem
              · exact ⟨value, hrow⟩
              · exact hbefore earlier hmem
          | ok values => simp [hrow, hrest] at hresolve

end TypedQuery

namespace QueueCall

/-- No answer is both as expected and not. -/
theorem not_breaks_of_meets
    {call : QueueCall ρ V}
    {error : Error}
    (hmeets : call.Meets answer) :
    ¬ call.Breaks answer error := by
  cases call with
  | one query place =>
      obtain ⟨decode, hdecode, row, b, hrows, hrow⟩ := hmeets
      rintro ⟨other, hother, hbreaks⟩
      cases Option.mem_unique hdecode hother
      rw [hrows] at hbreaks
      rcases hbreaks with ⟨hnil, -⟩ | ⟨bad, rest, source, hcons, hbad, -⟩ | ⟨_, _, _, _, hcons, -⟩
      · cases hnil
      · cases hcons
        rw [hrow] at hbad
        cases hbad
      · cases hcons
  | many query place =>
      obtain ⟨decode, hdecode, hrows⟩ := hmeets
      rintro ⟨other, hother, before, bad, after, source, hsplit, -, hbad, -⟩
      cases Option.mem_unique hdecode hother
      obtain ⟨b, hb⟩ := hrows bad (by simp [hsplit])
      rw [hb] at hbad
      cases hbad
  | exec query place =>
      rintro ⟨hone, hcount, -⟩
      exact hcount (hmeets hone)

end QueueCall
end Answers

section Queueing

variable {S α β : Type}

/-- Run an action of queueing on a batch and a world. -/
def Queueing.runOn
    (q : Queueing σ ρ S α)
    (state : Batch ρ S × World σ S) :
    Except Error α × Batch ρ S × World σ S :=
  Id.run (StateT.run (ExceptT.run q) state)

namespace Queueing

variable (state : Batch ρ S × World σ S)

@[simp]
theorem runOn_pure
    (a : α) :
    (pure a : Queueing σ ρ S α).runOn state = (.ok a, state) :=
  rfl

@[simp]
theorem runOn_throw
    (e : Error) :
    (throw e : Queueing σ ρ S α).runOn state = (.error e, state) :=
  rfl

theorem runOn_bind
    (q : Queueing σ ρ S α)
    (next : α → Queueing σ ρ S β) :
    (q >>= next).runOn state
      = match q.runOn state with
        | (.ok a, left) => (next a).runOn left
        | (.error e, left) => (.error e, left) := by
  have hrun : (q >>= next).runOn state
      = Id.run (StateT.run (ExceptT.bindCont next (q.runOn state).1) (q.runOn state).2) := rfl
  rw [hrun]
  rcases q.runOn state with ⟨e | a, left⟩ <;> rfl

@[simp]
theorem runOn_ofExcept
    (result : Except Error α) :
    (ofExcept result : Queueing σ ρ S α).runOn state = (result, state) := by
  cases result <;> rfl

theorem runOn_append
    {batch : Batch ρ S}
    (hopen : batch.sent = false)
    (world : World σ S)
    (entry : Entry ρ S) :
    (append entry : Queueing σ ρ S Unit).runOn (batch, world)
      = (.ok (), { batch with entries := batch.entries ++ [entry] }, world) := by
  have hqueue : batch.queue entry = .ok { batch with entries := batch.entries ++ [entry] } := by
    simp [Batch.queue, hopen]
  have hget : (get : Queueing σ ρ S _).runOn (batch, world) = (.ok (batch, world), batch, world) :=
    rfl
  unfold append
  rw [runOn_bind, hget]
  simp only [hqueue]
  rfl

/-- Filling a new batch takes no time, and a batch that was filled is closed. -/
theorem run_fill
    (q : Queueing σ ρ S Unit)
    (cutoff : Option Nat)
    (world : World σ S) :
    q.fill.run cutoff world
      = match q.runOn (Batch.empty, world) with
        | (.ok (), batch, left) => (.done (.ok batch.close), left)
        | (.error e, _, left) => (.done (.error e), left) := by
  have hempty :
      StateT.run (ExceptT.run q) (Batch.empty, world) = q.runOn (Batch.empty, world) := rfl
  unfold fill
  rw [Work.run_step, hempty]
  rcases q.runOn (Batch.empty, world) with ⟨e | _, batch, left⟩ <;> rfl

end Queueing

theorem TypedQuery.runOn_statement
    (query : TypedQuery ρ β)
    (kind : StatementKind)
    (batch : Batch ρ S)
    (world : World σ S) :
    ∃ notes, (query.statement kind : Queueing σ ρ S Statement).runOn (batch, world)
      = match query.args.bind query.text with
        | .error e => (.error (.arguments e), batch, world)
        | .ok sql => (.ok ⟨sql, kind⟩, batch, { world with notes := notes }) := by
  unfold statement
  cases query.args.bind query.text with
  | error e => exact ⟨world.notes, rfl⟩
  | ok sql => exact ⟨_, rfl⟩

namespace QueueCall

variable [DecidableEq K]

/-- An entry that fills a slot with what it reads from answers serves a call if the reading and the
filling do. -/
theorem served_of
    {call : QueueCall ρ V}
    {read : Answer ρ → Except Error α}
    {fill : α → Cells V → Cells V}
    (hbreaks : ∀ answer error, read answer = .error error → call.Breaks answer error)
    (hmeets : ∀ answer a, read answer = .ok a →
      call.Meets answer ∧ ∀ cells, call.Fills answer (fill a cells))
    (hothers : ∀ a cells k, call.key? ≠ some k → fill a cells k = cells k)
    (statement : Statement) :
    call.Served ⟨statement, fun answer => fill <$> read answer⟩ := by
  constructor
  · intro answer error hresolve
    apply hbreaks
    cases hread : read answer with
    | error e => simpa [hread] using hresolve
    | ok a => simp [hread] at hresolve
  · intro answer change hresolve
    cases hread : read answer with
    | error e => simp [hread] at hresolve
    | ok a =>
        obtain ⟨hanswer, hfills⟩ := hmeets answer a hread
        have hchange : fill a = change := by simpa [hread] using hresolve
        subst hchange
        exact ⟨hanswer, fun cells => ⟨hfills cells, hothers a cells⟩⟩

theorem served_one
    {query : TypedQuery ρ β}
    {decode : Decoder ρ β}
    (hdecode : query.decode = some decode)
    (place : Place V β)
    (statement : Statement) :
    (one query place).Served
      ⟨statement, fun answer => place.slot.fill <$> TypedQuery.resolveOne decode answer⟩ := by
  apply served_of
  · intro answer error hone
    exact ⟨decode, hdecode, TypedQuery.error_of_resolveOne hone⟩
  · intro answer b hone
    obtain ⟨row, hrows, hrow⟩ := TypedQuery.rows_of_resolveOne hone
    refine ⟨⟨decode, hdecode, row, b, hrows, hrow⟩, fun cells => ?_⟩
    exact ⟨decode, hdecode, row, b, hrows, hrow, place.get_fill b cells⟩
  · intro b cells k hk
    exact place.fill_of_ne b cells hk

theorem served_many
    {query : TypedQuery ρ β}
    {decode : Decoder ρ β}
    (hdecode : query.decode = some decode)
    (place : Place V (List β))
    (statement : Statement) :
    (many query place).Served
      ⟨statement, fun answer => place.slot.fill <$> TypedQuery.resolveMany decode answer⟩ := by
  apply served_of
  · intro answer error hmany
    exact ⟨decode, hdecode, TypedQuery.error_of_resolveMany hmany⟩
  · intro answer bs hmany
    have hrows := TypedQuery.rows_of_resolveMany hmany
    refine ⟨⟨decode, hdecode, TypedQuery.readable_of_forall₂ hrows⟩, fun cells => ?_⟩
    exact ⟨decode, hdecode, bs, hrows, place.get_fill bs cells⟩
  · intro bs cells k hk
    exact place.fill_of_ne bs cells hk

theorem served_exec
    (query : TypedQuery ρ β)
    {place : Option (Place V Nat)}
    {fill : Nat → Cells V → Cells V}
    (hfill : ∀ n cells, fill n cells = place.elim cells fun p => p.slot.fill n cells)
    (statement : Statement) :
    (exec query place).Served
      ⟨statement, fun answer =>
        fill <$> TypedQuery.resolveExec (query.expect = .execOneRow) answer⟩ := by
  apply served_of
  · intro answer error hexec
    unfold TypedQuery.resolveExec at hexec
    split at hexec
    · next hwrong =>
        cases hexec
        exact ⟨by simpa using hwrong.1, hwrong.2, rfl⟩
    · cases hexec
  · intro answer n hexec
    unfold TypedQuery.resolveExec at hexec
    split at hexec
    · cases hexec
    · next hright =>
        cases hexec
        refine ⟨fun hone => ?_, fun cells p hp => ?_⟩
        · by_contra hcount
          exact hright ⟨by simpa using hone, hcount⟩
        · cases hp
          rw [hfill]
          exact p.get_fill _ cells
  · intro n cells k hk
    rw [hfill]
    cases place with
    | none => rfl
    | some place => exact place.fill_of_ne n cells hk

/-- A query that is checked and bound before its statement is appended, as in every way of
queueing. -/
theorem runOn_queued
    (call : QueueCall ρ V)
    (query : TypedQuery ρ β)
    {γ : Type}
    (checked : Except Error γ)
    {resolve : γ → Answer ρ → Except Error (Cells V → Cells V)}
    (hcheck : call.check = (fun _ => ()) <$> checked)
    (hsql : call.sql = query.args.bind query.text)
    (hserved : ∀ c, checked = .ok c → ∀ statement, call.Served ⟨statement, resolve c⟩)
    {batch : Batch ρ (Cells V)}
    (hopen : batch.sent = false)
    (world : World σ (Cells V)) :
    let queue : Queueing σ ρ (Cells V) Unit := do
      let c ← Queueing.ofExcept checked
      let statement ← query.statement call.kind
      Queueing.append ⟨statement, resolve c⟩
    (∃ e, call.statement = .error e ∧ queue.runOn (batch, world) = (.error e, batch, world)) ∨
      (∃ entry notes, call.statement = .ok entry.statement ∧ call.Served entry ∧
        queue.runOn (batch, world)
          = (.ok (), { batch with entries := batch.entries ++ [entry] },
              { world with notes := notes })) := by
  intro queue
  obtain ⟨notes, hstatement⟩ := query.runOn_statement call.kind batch world
  cases hchecked : checked with
  | error e =>
      left
      refine ⟨e, by simp [statement, hcheck, hchecked], ?_⟩
      simp [queue, hchecked, Queueing.runOn_bind]
  | ok c =>
      cases hbind : query.args.bind query.text with
      | error e =>
          left
          refine ⟨.arguments e, by simp [statement, hcheck, hchecked, hsql, hbind], ?_⟩
          simp [queue, hchecked, Queueing.runOn_bind, hstatement, hbind]
      | ok sql =>
          right
          refine ⟨⟨⟨sql, call.kind⟩, resolve c⟩, notes, ?_, hserved c hchecked _, ?_⟩
          · simp [statement, hcheck, hchecked, hsql, hbind]
          · simp [queue, hchecked, Queueing.runOn_bind, hstatement, hbind,
              Queueing.runOn_append hopen]

/-- A refused call leaves everything as it was. An accepted one appends one entry, which makes of
answers what the call asks for, and writes to the log. -/
theorem run_eq
    (call : QueueCall ρ V)
    {batch : Batch ρ (Cells V)}
    (hopen : batch.sent = false)
    (world : World σ (Cells V)) :
    (∃ e, call.statement = .error e ∧
        (call.run : Queueing σ ρ (Cells V) Unit).runOn (batch, world)
          = (.error e, batch, world)) ∨
      (∃ entry notes, call.statement = .ok entry.statement ∧ call.Served entry ∧
        (call.run : Queueing σ ρ (Cells V) Unit).runOn (batch, world)
          = (.ok (), { batch with entries := batch.entries ++ [entry] },
              { world with notes := notes })) := by
  cases call with
  | one query place =>
      refine runOn_queued _ query (query.decoderFor .queue .one) rfl rfl ?_ hopen world
      intro decode hdecode statement
      exact served_one (TypedQuery.decode_of_decoderFor hdecode) place statement
  | many query place =>
      refine runOn_queued _ query (query.decoderFor .queueMany .many) rfl rfl ?_ hopen world
      intro decode hdecode statement
      exact served_many (TypedQuery.decode_of_decoderFor hdecode) place statement
  | exec query place =>
      have hrun : ((exec query place).run : Queueing σ ρ (Cells V) Unit)
          = query.queueExecWith (place.map Place.slot) := by
        cases place <;> rfl
      have hcheck : (exec query place).check = (fun _ => ()) <$> query.checkExec := by
        change query.checkExec = _
        cases query.checkExec <;> rfl
      rw [hrun]
      refine runOn_queued _ query query.checkExec hcheck rfl ?_ hopen world
      intro _ _ statement
      apply served_exec query
      intro n cells
      cases place <;> rfl

end QueueCall
end Queueing
end QueryBatch
