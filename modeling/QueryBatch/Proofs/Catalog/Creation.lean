import QueryBatch.Proofs.Batch.Contract
import QueryBatch.Proofs.Batch.Ends
import QueryBatch.Proofs.Catalog.Statements

/-!
# The batch of a creation

A creation queues its insertions and the statement that reads the exercise back. Queueing them
cannot fail, so what is sent is known in advance (`fill_creation`), and what the creation reports is
told by the end of its batch: an unknown code only if a statement affected no row (`ends_create`).
-/

namespace QueryBatch
namespace Catalog

open Exercise.Query

variable {σ ρ S : Type}

section Defs

/-- An action of queueing appends entries, and otherwise only writes to the log. -/
def Appends (q : Queueing σ ρ S Unit) (entries : List (Entry ρ S)) : Prop :=
  ∀ (batch : Batch ρ S) (world : World σ S), batch.sent = false → ∃ notes,
    q.runOn (batch, world) = (.ok (), { batch with entries := batch.entries ++ entries },
      { world with notes := notes })

/-- The log after a new batch was filled. -/
def filledNotes (q : Queueing σ ρ S Unit) (world : World σ S) : List Note :=
  (q.fill.run none world).2.notes

/-- The entry of an insertion. -/
def Insertion.entry (part : Insertion) : Entry ρ S :=
  ⟨⟨part.request.bound, .exec⟩,
    fun answer => (fun _ store => store) <$> TypedQuery.resolveExec true answer⟩

/-- The queueing of a creation. -/
def creationQueue (reading : Reading ρ) (id : Uuid) (exercise : NewExercise) :
    Queueing σ ρ (Option Exercise) Unit := do
  queueInsertions (insertions id exercise)
  (TypedQuery.one (byId id).text (.named (byId id).args) reading.exercise).queue soleSlot

/-- The batch of a creation. -/
def creationBatch (reading : Reading ρ) (id : Uuid) (exercise : NewExercise) :
    Batch ρ (Option Exercise) where
  entries := (insertions id exercise).map Insertion.entry
    ++ [⟨⟨(byId id).bound, .query⟩,
        fun answer => soleSlot.fill <$> TypedQuery.resolveOne reading.exercise answer⟩]
  sent := true

/-- The statements of a creation. -/
def creationStatements (id : Uuid) (exercise : NewExercise) : List Statement :=
  (insertions id exercise).map (fun part => ⟨part.request.bound, .exec⟩)
    ++ [⟨(byId id).bound, .query⟩]

/-- What a creation reports when its batch has ended. -/
def Reported (parts : List Insertion) (batch : Except QueryBatch.Error Unit)
    (result : Except Error Exercise) : Prop :=
  match batch with
  | .error e => result = .error (blame parts e)
  | .ok () => ∀ kind code, result ≠ .error (.unknownCode kind code)

end Defs

section Appending

variable {q q' : Queueing σ ρ S Unit} {entries entries' : List (Entry ρ S)}
variable {text : String} {args : NamedArgs}

theorem appends_nothing : Appends (pure () : Queueing σ ρ S Unit) [] := by
  intro batch world _
  exact ⟨world.notes, by simp⟩

theorem Appends.then
    (hq : Appends q entries)
    (hq' : Appends q' entries') :
    Appends (q >>= fun _ => q') (entries ++ entries') := by
  intro batch world hopen
  obtain ⟨notes, hrun⟩ := hq batch world hopen
  obtain ⟨notes', hrun'⟩ := hq' { batch with entries := batch.entries ++ entries }
    { world with notes := notes } hopen
  refine ⟨notes', ?_⟩
  rw [Queueing.runOn_bind, hrun]
  simp only [hrun', List.append_assoc]

theorem Appends.fill_eq
    (hq : Appends q entries) :
    q.fill = Work.step fun world =>
      (.ok ⟨entries, true⟩, { world with notes := filledNotes q world }) := by
  funext cutoff world
  obtain ⟨notes, hrun⟩ := hq Batch.empty world rfl
  have hfill : ∀ cutoff, q.fill.run cutoff world
      = (.done (.ok ⟨entries, true⟩), { world with notes := notes }) := by
    intro cutoff
    rw [Queueing.run_fill, hrun]
    rfl
  have hnotes : filledNotes q world = notes := by
    unfold filledNotes
    rw [hfill]
  change q.fill.run cutoff world
    = (.done (.ok ⟨entries, true⟩), { world with notes := filledNotes q world })
  rw [hnotes, hfill]

/-- A statement whose text is ready is appended with its values bound. -/
theorem appends_statement
    {β : Type}
    (query : TypedQuery ρ β)
    (hargs : query.args = .named args)
    (hready : Sql.Ready args query.text)
    (kind : StatementKind)
    (resolve : Answer ρ → Except QueryBatch.Error (S → S)) :
    Appends (do
        let statement ← query.statement kind
        Queueing.append ⟨statement, resolve⟩ : Queueing σ ρ S Unit)
      [⟨⟨Sql.numberedForm query.text args, kind⟩, resolve⟩] := by
  intro batch world hopen
  obtain ⟨notes, hstatement⟩ := query.runOn_statement kind batch world
  rw [hargs, hready.bind] at hstatement
  refine ⟨notes, ?_⟩
  rw [Queueing.runOn_bind, hstatement]
  exact Queueing.runOn_append hopen _ _

theorem appends_execOneRow
    (hready : Sql.Ready args text) :
    Appends ((.execOneRow text (.named args) : TypedQuery ρ Unit).queueExec : Queueing σ ρ S Unit)
      [⟨⟨Sql.numberedForm text args, .exec⟩,
        fun answer => (fun _ store => store) <$> TypedQuery.resolveExec true answer⟩] :=
  appends_nothing.then <|
    appends_statement (.execOneRow text (.named args) : TypedQuery ρ Unit) rfl hready .exec
      fun answer => (fun _ store => store) <$> TypedQuery.resolveExec true answer

theorem appends_one
    {β : Type}
    (decode : Decoder ρ β)
    (slot : Slot S β)
    (hready : Sql.Ready args text) :
    Appends ((TypedQuery.one text (.named args) decode).queue slot : Queueing σ ρ S Unit)
      [⟨⟨Sql.numberedForm text args, .query⟩,
        fun answer => slot.fill <$> TypedQuery.resolveOne decode answer⟩] :=
  appends_nothing.then <|
    appends_statement (.one text (.named args) decode) rfl hready .query
      fun answer => slot.fill <$> TypedQuery.resolveOne decode answer

theorem appends_queueInsertions
    (parts : List Insertion)
    (hready : ∀ part ∈ parts, Sql.Ready part.request.args part.request.text) :
    Appends (queueInsertions parts : Queueing σ ρ S Unit) (parts.map Insertion.entry) := by
  induction parts with
  | nil => exact appends_nothing
  | cons part rest ih =>
      have hrest := ih fun other hother => hready other (List.mem_cons_of_mem _ hother)
      exact (appends_execOneRow (hready part List.mem_cons_self)).then hrest

end Appending

section Creating

variable {reading : Reading ρ} {id : Uuid} {exercise : NewExercise}

theorem ready_of_mem_insertions
    {part : Insertion}
    (hpart : part ∈ insertions id exercise) :
    Sql.Ready part.request.args part.request.text := by
  have hlinks : ∀ kind link codes, part ∈ linkInsertions id kind link codes →
      Sql.Ready part.request.args part.request.text := by
    intro kind link codes hmem
    obtain ⟨code, -, rfl⟩ := List.mem_map.mp hmem
    exact ready_link link id code
  simp only [insertions, List.mem_cons, List.mem_append] at hpart
  rcases hpart with rfl | (hequipment | hmuscle) | htag
  · exact ready_insert id exercise
  · exact hlinks _ _ _ hequipment
  · exact hlinks _ _ _ hmuscle
  · exact hlinks _ _ _ htag

/-- The queueing of a creation cannot fail. -/
theorem fill_creation :
    ((creationQueue reading id exercise).fill : Work σ (Option Exercise) _)
      = Work.step fun world => (.ok (creationBatch reading id exercise),
          { world with notes := filledNotes (creationQueue reading id exercise) world }) :=
  ((appends_queueInsertions _ fun _ => ready_of_mem_insertions).then
    (appends_one reading.exercise soleSlot (ready_byId id))).fill_eq

theorem statements_creationBatch :
    (creationBatch reading id exercise).statements = creationStatements id exercise := by
  simp [Batch.statements, creationBatch, creationStatements, Insertion.entry]

theorem unwritable?_of_ready
    {text : String}
    {args : NamedArgs}
    (hready : Sql.Ready args text) :
    Postgres.unwritable? (.statement (Sql.numberedForm text args)) = none := by
  have hnone : (Sql.numberedForm text args).text.toList.contains '\x00' = false := by
    rw [Bool.eq_false_iff, ne_eq, List.contains_iff_mem]
    exact hready.notNull
  simp only [Postgres.unwritable?, hnone, Bool.false_eq_true, if_false]

theorem unwritable?_creationStatements :
    ∀ s ∈ creationStatements id exercise, Postgres.unwritable? (.statement s.sql) = none := by
  intro s hs
  rcases List.mem_append.mp hs with hs | hs
  · obtain ⟨part, hpart, rfl⟩ := List.mem_map.mp hs
    exact unwritable?_of_ready (ready_of_mem_insertions hpart)
  · obtain rfl := List.mem_singleton.mp hs
    exact unwritable?_of_ready (ready_byId id)

theorem eq_of_blame
    {parts : List Insertion}
    {e : QueryBatch.Error}
    {kind : CodeKind}
    {code : String}
    (hblame : blame parts e = .unknownCode kind code) :
    ∃ index, e = .statement index (.rowsAffected 0) := by
  unfold blame at hblame
  split at hblame
  · next index => exact ⟨index, rfl⟩
  · cases hblame

/-- What a creation reports is told by the end of its batch. -/
theorem ends_create
    {d : Driver σ ρ}
    {ctx : Context}
    {cutoff : Option Nat}
    {world : World σ S}
    (known : Except QueryBatch.Error Unit → σ → List Nat → Prop)
    (hends : ∀ entered : World σ (Option Exercise),
      entered.driver = world.driver → entered.openTx = world.openTx →
        Ends (fun batch left => known batch left.driver left.openTx) (fun _ => True)
          ((d.runBatchInTransaction ctx fun _ => creationQueue reading id exercise).run cutoff
            entered)) :
    Ends (fun result left => ∃ batch, known batch left.driver left.openTx ∧
        Reported (insertions id exercise) batch result)
      (fun _ => True) ((create d reading ctx id exercise).run cutoff world) := by
  unfold create
  apply ends_inSpan
  apply ends_bind
  unfold collected
  apply ends_bind
  apply ends_withStore
  refine (hends _ rfl rfl).imp ?_ (fun _ _ _ _ _ => trivial)
  rintro (e | _) left hleft later hdriver hopen
  · exact ⟨.error e, by rwa [← hdriver, ← hopen] at hleft, rfl⟩
  · dsimp only
    rw [← hdriver, ← hopen] at hleft
    cases left.store with
    | none => exact ⟨.ok (), hleft, fun _ _ h => (nomatch h)⟩
    | some created => exact ⟨.ok (), hleft, fun _ _ h => (nomatch h)⟩

end Creating
end Catalog
end QueryBatch
