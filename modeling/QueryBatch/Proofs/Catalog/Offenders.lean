import QueryBatch.Proofs.Catalog.Creation
import QueryBatch.Proofs.Sql.Numbering

/-!
# The order of a creation's statements, and the first that fails

A creation inserts the exercise, which looks its category up, then for each kind of link the
distinct codes in the order of first occurrence, and last it reads the exercise back. The error of
its batch tells the position of the first statement that failed (`check_creation`), and the code to
blame is the one at that position among the insertions (`blame_cases`).
-/

namespace QueryBatch
namespace Catalog

open Exercise.Query

variable {ρ : Type}

section Defs

/-- The codes of a list without repetitions, in the order of first occurrence. -/
structure FirstOccurrences (codes firsts : List String) : Prop where
  nodup : firsts.Nodup
  mem_iff : ∀ code, code ∈ firsts ↔ code ∈ codes
  ordered : firsts.Pairwise fun earlier later => codes.idxOf earlier < codes.idxOf later

/-- Insertions are the category's and then the links: to equipment, to muscles and to tags. What is
sent for a link is told by `bound_link`. -/
def InOrder (id : Uuid) (exercise : NewExercise) (parts : List Insertion) : Prop :=
  ∃ equipment muscles tags,
    FirstOccurrences exercise.equipmentTypes equipment ∧
    FirstOccurrences exercise.primaryMuscles muscles ∧
    FirstOccurrences exercise.tags tags ∧
    parts = ⟨.category, exercise.category, insert id exercise⟩
      :: (equipment.map (fun code => ⟨.equipmentType, code, link .equipmentType id code⟩)
        ++ muscles.map (fun code => ⟨.primaryMuscle, code, link .primaryMuscle id code⟩)
        ++ tags.map (fun code => ⟨.tag, code, link .tag id code⟩))

/-- The first statement of a creation whose answer is not as expected, and what is wrong with it:
an insertion that did not affect one row, or the exercise cannot be read back. -/
inductive FirstFailure (reading : Reading ρ) (parts : List Insertion) (answers : List (Answer ρ)) :
    Nat → QueryBatch.Error → Prop
  | insertion
      {index : Nat}
      {part : Insertion}
      {answer : Answer ρ}
      (hpart : parts[index]? = some part)
      (hanswer : answers[index]? = some answer)
      (hearlier : ∀ earlier ∈ answers.take index, earlier.rowsAffected = 1)
      (hrows : answer.rowsAffected ≠ 1) :
      FirstFailure reading parts answers index (.rowsAffected answer.rowsAffected)
  | select
      {answer : Answer ρ}
      {source : QueryBatch.Error}
      (hanswer : answers[parts.length]? = some answer)
      (hearlier : ∀ earlier ∈ answers.take parts.length, earlier.rowsAffected = 1)
      (hread : TypedQuery.resolveOne reading.exercise answer = .error source) :
      FirstFailure reading parts answers parts.length source

/-- The statement that reads a created exercise back. -/
def selectEntry (reading : Reading ρ) (id : Uuid) : Entry ρ (Option Exercise) :=
  ⟨⟨(byId id).bound, .query⟩,
    fun answer => soleSlot.fill <$> TypedQuery.resolveOne reading.exercise answer⟩

end Defs

section Codes

variable {codes firsts : List String} {code : String}

/-- More codes behind a list leave its first occurrences in order. -/
theorem FirstOccurrences.ordered_append
    (hfirsts : FirstOccurrences codes firsts)
    (more : List String) :
    firsts.Pairwise fun earlier later =>
      (codes ++ more).idxOf earlier < (codes ++ more).idxOf later := by
  refine hfirsts.ordered.imp_of_mem fun {a b} ha hb hab => ?_
  have hin := hfirsts.mem_iff
  rwa [List.idxOf_append_of_mem ((hin a).1 ha), List.idxOf_append_of_mem ((hin b).1 hb)]

theorem FirstOccurrences.repeated
    (hfirsts : FirstOccurrences codes firsts)
    (hcode : code ∈ firsts) :
    FirstOccurrences (codes ++ [code]) firsts := by
  refine ⟨hfirsts.nodup, fun other => ?_, hfirsts.ordered_append [code]⟩
  rw [List.mem_append, List.mem_singleton, ← hfirsts.mem_iff other]
  constructor
  · exact Or.inl
  · rintro (hin | rfl)
    · exact hin
    · exact hcode

theorem FirstOccurrences.snoc
    (hfirsts : FirstOccurrences codes firsts)
    (hcode : code ∉ firsts) :
    FirstOccurrences (codes ++ [code]) (firsts ++ [code]) := by
  have hnew : code ∉ codes := fun hin => hcode ((hfirsts.mem_iff code).2 hin)
  refine ⟨?_, fun other => ?_, List.pairwise_append.2 ⟨?_, List.pairwise_singleton _ _, ?_⟩⟩
  · exact hfirsts.nodup.append (List.nodup_singleton code) (List.disjoint_singleton.2 hcode)
  · rw [List.mem_append, List.mem_append, hfirsts.mem_iff other]
  · exact hfirsts.ordered_append [code]
  · intro earlier hearlier later hlater
    obtain rfl := List.mem_singleton.1 hlater
    have hin : earlier ∈ codes := (hfirsts.mem_iff earlier).1 hearlier
    rw [List.idxOf_append_of_mem hin, List.idxOf_append_of_notMem hnew]
    exact Nat.lt_of_lt_of_le (List.idxOf_lt_length_iff.2 hin) (Nat.le_add_right _ _)

/-- Going on through a list keeps the first occurrences of all that was seen. -/
theorem FirstOccurrences.foldl
    (hfirsts : FirstOccurrences codes firsts)
    (rest : List String) :
    FirstOccurrences (codes ++ rest)
      (rest.foldl (fun seen code => if seen.contains code then seen else seen ++ [code])
        firsts) := by
  induction rest generalizing codes firsts with
  | nil => rwa [List.append_nil]
  | cons code rest ih =>
      rw [List.foldl_cons, List.append_cons codes code rest]
      by_cases hcode : code ∈ firsts
      · rw [if_pos (List.contains_iff_mem.2 hcode)]
        exact ih (hfirsts.repeated hcode)
      · rw [if_neg (by rwa [List.contains_iff_mem])]
        exact ih (hfirsts.snoc hcode)

theorem firstOccurrences_distinct
    (codes : List String) :
    FirstOccurrences codes (distinct codes) :=
  FirstOccurrences.foldl ⟨List.nodup_nil, fun _ => Iff.rfl, .nil⟩ codes

example : distinct ["crossfit", "core", "crossfit"] = ["crossfit", "core"] := by decide

theorem inOrder_insertions
    (id : Uuid)
    (exercise : NewExercise) :
    InOrder id exercise (insertions id exercise) :=
  ⟨_, _, _, firstOccurrences_distinct _, firstOccurrences_distinct _, firstOccurrences_distinct _,
    rfl⟩

/-- What is sent for a link: the code of the second value is looked up among those of its kind, and
the exercise of the first value is linked to it in the table of that kind. -/
theorem bound_link
    (kind : Link)
    (id : Uuid)
    (code : String) :
    (link kind id code).bound.text = lines
        ["",
         "        INSERT INTO " ++ kind.linkTable ++ " (exercise_id, " ++ kind.linkColumn ++ ")",
         "        SELECT e.id, l.id",
         "        FROM repbatch.exercises e, " ++ kind.lookupTable ++ " l",
         "        WHERE e.external_id = $1 AND l.code = $2"] ∧
      (link kind id code).bound.params = [toParam id, toParam code] := by
  have hnames : (Sql.namesIn (link kind id code).text).eraseDups = ["id", "code"] := by
    rw [(mentions_link kind id code).names_eq]
    rfl
  have htarget := silent_linkTarget kind
  have hsource := silent_linkSource kind
  have hempty : Sql.AllChars Sql.isSilent "" := .literal rfl
  have hselect : Sql.AllChars Sql.isSilent "        SELECT e.id, l.id" := .literal rfl
  have hlast : Sql.renumbered ["id", "code"]
      "        WHERE e.external_id = @id AND l.code = @code"
        = "        WHERE e.external_id = $1 AND l.code = $2" := by
    decide +kernel
  unfold Request.bound Sql.numberedForm
  rw [hnames, ← Sql.renumbered]
  constructor
  · unfold link lines
    dsimp only
    rw [Sql.renumbered_joinWith (.literal rfl) (.literal rfl)]
    · simp only [List.map_cons, List.map_nil, Sql.renumbered_of_silent hempty,
        Sql.renumbered_of_silent htarget, Sql.renumbered_of_silent hselect,
        Sql.renumbered_of_silent hsource, hlast]
    · simp only [List.forall_mem_cons, List.not_mem_nil, IsEmpty.forall_iff, implies_true,
        and_true]
      exact ⟨hempty.ordinary, htarget.ordinary, hselect.ordinary, hsource.ordinary,
        .literal rfl⟩
  · rfl

end Codes

section Failures

variable {reading : Reading ρ} {id : Uuid} {parts : List Insertion} {part : Insertion}
variable {answers : List (Answer ρ)} {answer : Answer ρ} {index : Nat} {source : QueryBatch.Error}

theorem firstFailure_nil_iff :
    FirstFailure reading [] [answer] index source ↔
      index = 0 ∧ TypedQuery.resolveOne reading.exercise answer = .error source := by
  constructor
  · intro hfirst
    cases hfirst with
    | insertion hpart => simp at hpart
    | select hanswer _ hread =>
        cases hanswer
        exact ⟨rfl, hread⟩
  · rintro ⟨rfl, hread⟩
    exact .select rfl (fun _ h => absurd h List.not_mem_nil) hread

/-- Behind an insertion of one row the first failure is that of the rest. -/
theorem firstFailure_cons_iff
    (hone : answer.rowsAffected = 1) :
    FirstFailure reading (part :: parts) (answer :: answers) index source ↔
      ∃ later, index = later + 1 ∧ FirstFailure reading parts answers later source := by
  constructor
  · intro hfirst
    cases hfirst with
    | insertion hpart hanswer hearlier hrows =>
        cases index with
        | zero =>
            cases hanswer
            exact absurd hone hrows
        | succ later =>
            exact ⟨later, rfl, .insertion hpart hanswer
              (fun earlier hin => hearlier earlier (List.mem_cons_of_mem _ hin)) hrows⟩
    | select hanswer hearlier hread =>
        exact ⟨parts.length, rfl, .select hanswer
          (fun earlier hin => hearlier earlier (List.mem_cons_of_mem _ hin)) hread⟩
  · have htake : ∀ later, (∀ earlier ∈ answers.take later, earlier.rowsAffected = 1) →
        ∀ earlier ∈ (answer :: answers).take (later + 1), earlier.rowsAffected = 1 := by
      intro later hlater earlier hin
      rcases List.mem_cons.1 hin with rfl | hin
      · exact hone
      · exact hlater earlier hin
    rintro ⟨later, rfl, hfirst⟩
    cases hfirst with
    | insertion hpart hanswer hearlier hrows =>
        exact .insertion hpart hanswer (htake later hearlier) hrows
    | select hanswer hearlier hread => exact .select hanswer (htake _ hearlier) hread

/-- An insertion that did not affect one row is the first failure if nothing is in front. -/
theorem firstFailure_cons_iff_of_ne
    (hrows : answer.rowsAffected ≠ 1) :
    FirstFailure reading (part :: parts) (answer :: answers) index source ↔
      index = 0 ∧ source = .rowsAffected answer.rowsAffected := by
  constructor
  · intro hfirst
    cases hfirst with
    | insertion hpart hanswer hearlier =>
        cases index with
        | zero =>
            cases hanswer
            exact ⟨rfl, rfl⟩
        | succ later => exact absurd (hearlier answer List.mem_cons_self) hrows
    | select hanswer hearlier => exact absurd (hearlier answer List.mem_cons_self) hrows
  · rintro ⟨rfl, rfl⟩
    exact .insertion rfl rfl (fun _ h => absurd h List.not_mem_nil) hrows

theorem selectEntry_resolve_error
    (hread : TypedQuery.resolveOne reading.exercise answer = .error source) :
    (selectEntry reading id).resolve answer = .error source := by
  simp [selectEntry, hread]

theorem selectEntry_resolve_ok
    {created : Exercise}
    (hread : TypedQuery.resolveOne reading.exercise answer = .ok created) :
    (selectEntry reading id).resolve answer = .ok fun _ => some created := by
  simp only [selectEntry, hread]
  rfl

theorem Insertion.entry_resolve_ok
    {T : Type}
    (hone : answer.rowsAffected = 1) :
    (part.entry : Entry ρ T).resolve answer = .ok fun store => store := by
  simp [Insertion.entry, TypedQuery.resolveExec, hone]

theorem Insertion.entry_resolve_error
    {T : Type}
    (hrows : answer.rowsAffected ≠ 1) :
    (part.entry : Entry ρ T).resolve answer = .error (.rowsAffected answer.rowsAffected) := by
  simp [Insertion.entry, TypedQuery.resolveExec, hrows]

variable (reading id) in
/-- The answers to a creation are checked up to the first failure, and without one the exercise is
there. -/
theorem check_creation
    (hlength : answers.length = parts.length + 1)
    (position : Nat) :
    (∀ e, Batch.check position (parts.map Insertion.entry ++ [selectEntry reading id]) answers
        = .error e ↔
      ∃ index source, e = .statement (position + index) source ∧
        FirstFailure reading parts answers index source) ∧
    ∀ change, Batch.check position (parts.map Insertion.entry ++ [selectEntry reading id]) answers
        = .ok change → ∀ store, ∃ created, change store = some created := by
  induction parts generalizing answers position with
  | nil =>
      obtain ⟨answer, rfl⟩ := List.length_eq_one_iff.1 hlength
      cases hread : TypedQuery.resolveOne reading.exercise answer with
      | error source =>
          simp [Batch.check, selectEntry_resolve_error hread, firstFailure_nil_iff, hread, eq_comm]
      | ok created =>
          simp [Batch.check, selectEntry_resolve_ok hread, firstFailure_nil_iff, hread, eq_comm]
  | cons part parts ih =>
      rcases answers with _ | ⟨answer, answers⟩
      · simp at hlength
      have hrest : answers.length = parts.length + 1 := by simpa using hlength
      obtain ⟨hfails, hfills⟩ := ih hrest (position + 1)
      by_cases hone : answer.rowsAffected = 1
      · have hcheck : Batch.check position
            ((part :: parts).map Insertion.entry ++ [selectEntry reading id]) (answer :: answers)
              = Batch.check (position + 1) (parts.map Insertion.entry ++ [selectEntry reading id])
                  answers := by
          rw [List.map_cons, List.cons_append, Batch.check, Insertion.entry_resolve_ok hone]
          cases Batch.check (position + 1) _ answers <;> rfl
        rw [hcheck]
        refine ⟨fun e => (hfails e).trans ?_, hfills⟩
        simp only [firstFailure_cons_iff hone]
        constructor
        · rintro ⟨index, source, rfl, hfirst⟩
          exact ⟨index + 1, source, by rw [Nat.add_right_comm, Nat.add_assoc], index, rfl, hfirst⟩
        · rintro ⟨_, source, rfl, index, rfl, hfirst⟩
          exact ⟨index, source, by rw [Nat.add_right_comm, Nat.add_assoc], hfirst⟩
      · simp [Batch.check, Insertion.entry_resolve_error hone, firstFailure_cons_iff_of_ne hone,
          eq_comm]

variable (reading id answers) in
/-- The answers to a creation fail at a statement exactly if there is one for each statement and
that one is the first failure. -/
theorem resolve_creationBatch
    (exercise : NewExercise) :
    (∀ index source, (creationBatch reading id exercise).resolve answers
        = .error (.statement index source) ↔
      answers.length = (creationStatements id exercise).length ∧
        FirstFailure reading (insertions id exercise) answers index source) ∧
    ∀ change, (creationBatch reading id exercise).resolve answers = .ok change →
      ∀ store, ∃ created, change store = some created := by
  have hentries : (creationBatch reading id exercise).entries
      = (insertions id exercise).map Insertion.entry ++ [selectEntry reading id] := rfl
  have hcount : (creationBatch reading id exercise).entries.length
      = (insertions id exercise).length + 1 := by simp [hentries]
  have hstatements : (creationStatements id exercise).length
      = (insertions id exercise).length + 1 := by simp [creationStatements]
  unfold Batch.resolve
  rw [hcount, hstatements]
  by_cases hlength : answers.length = (insertions id exercise).length + 1
  · obtain ⟨hfails, hfills⟩ := check_creation reading id hlength 0
    rw [if_pos hlength, hentries]
    refine ⟨fun index source => ?_, hfills⟩
    rw [hfails]
    simp [hlength]
  · rw [if_neg hlength]
    simp [hlength]

end Failures

section Blaming

variable {parts : List Insertion} {e : QueryBatch.Error}

/-- An error of a batch blames a code, or it stays what it is. -/
theorem blame_cases
    (parts : List Insertion)
    (e : QueryBatch.Error) :
    (∃ index part, e = .statement index (.rowsAffected 0) ∧ parts[index]? = some part ∧
      blame parts e = .unknownCode part.kind part.code) ∨
    blame parts e = .execution e ∧
      ∀ index, e = .statement index (.rowsAffected 0) → parts[index]? = none := by
  unfold blame
  split
  · next index =>
      cases hpart : parts[index]? with
      | some part => exact .inl ⟨index, part, rfl, hpart, rfl⟩
      | none =>
          refine .inr ⟨rfl, fun other hother => ?_⟩
          obtain ⟨rfl, -⟩ := QueryBatch.Error.statement.inj hother
          exact hpart
  · next hother => exact .inr ⟨rfl, fun index h => absurd h (hother index)⟩

theorem blame_eq_unknownCode_iff
    {kind : CodeKind}
    {code : String} :
    blame parts e = .unknownCode kind code ↔
      ∃ index part, e = .statement index (.rowsAffected 0) ∧ parts[index]? = some part ∧
        part.kind = kind ∧ part.code = code := by
  rcases blame_cases parts e with ⟨index, part, rfl, hpart, hblame⟩ | ⟨hblame, hnone⟩
  · rw [hblame, Error.unknownCode.injEq]
    constructor
    · rintro ⟨hkind, hcode⟩
      exact ⟨index, part, rfl, hpart, hkind, hcode⟩
    · rintro ⟨other, part', hother, hpart', hkind, hcode⟩
      obtain ⟨rfl, -⟩ := QueryBatch.Error.statement.inj hother
      obtain rfl := Option.some.inj (hpart.symm.trans hpart')
      exact ⟨hkind, hcode⟩
  · rw [hblame]
    constructor
    · intro h
      cases h
    · rintro ⟨index, part, he, hpart, -⟩
      cases (hnone index he).symm.trans hpart

theorem blame_eq_execution_iff
    {source : QueryBatch.Error} :
    blame parts e = .execution source ↔
      source = e ∧ ∀ kind code, blame parts e ≠ .unknownCode kind code := by
  rcases blame_cases parts e with ⟨index, part, -, -, hblame⟩ | ⟨hblame, -⟩
  · simp [hblame]
  · simp [hblame, eq_comm]

theorem blame_ne_notFound
    (id : Uuid) :
    blame parts e ≠ .notFound id := by
  rcases blame_cases parts e with ⟨index, part, -, -, hblame⟩ | ⟨hblame, -⟩ <;> simp [hblame]

end Blaming

end Catalog
end QueryBatch
