import QueryBatch.Proofs.Batch.Handles

/-!
# Histories of a shared handle

What the log of a handle in use says about its transaction: it sees one thing after the other, a
commit or rollback is the last, and the calls after that are refused. Each of these is kept by the
events that a call can add.
-/

namespace QueryBatch

variable {ρ : Type}

section Histories

/-- The driver works for nobody, and never worked on a commit or rollback. -/
def AtRest (log : List (HandleEvent ρ)) : Prop :=
  ∀ (i a : Nat) (call : TxCall), log[i]? = some (.began a call) →
    call.finishes = false ∧ ∃ k, i < k ∧ log[k]? = some (.ended a call)

/-- Whenever the driver begins to work, all that it began before has ended and was no commit or
rollback. -/
def Serial (log : List (HandleEvent ρ)) : Prop :=
  ∀ (i j a b : Nat) (call other : TxCall), i < j →
    log[i]? = some (.began a call) → log[j]? = some (.began b other) →
    call.finishes = false ∧ ∃ k, i < k ∧ k < j ∧ log[k]? = some (.ended a call)

/-- Once a commit or rollback has begun, a call that gets the lock is refused at once. -/
def RefusesAfterFinish (log : List (HandleEvent ρ)) : Prop :=
  ∀ (i j a b : Nat) (asked : TxCall) (call : HandleCall), i < j →
    log[i]? = some (.began a asked) → asked.finishes = true →
    log[j]? = some (.obtained b call) → log[j + 1]? = some (.returned b call.refusal)

/-- A handle that was told to be closed is told to be closed ever after. -/
def ClosedForGood (log : List (HandleEvent ρ)) : Prop :=
  ∀ (i j a b : Nat) (closed : Bool), i < j → log[i]? = some (.returned a (.closed true)) →
    log[j]? = some (.returned b (.closed closed)) → closed = true

/-- A commit or rollback has begun. -/
def Finishing (log : List (HandleEvent ρ)) : Prop :=
  ∃ (i a : Nat) (call : TxCall), log[i]? = some (.began a call) ∧ call.finishes = true

/-- A handle is told to be closed only when something was finished. -/
def TellsFinish (log : List (HandleEvent ρ)) : Prop :=
  ∀ i a : Nat, log[i]? = some (.returned a (.closed true)) → Finishing log

/-- The history of a handle whose cell is empty or not. -/
structure Lawful (isOpen : Bool) (log : List (HandleEvent ρ)) : Prop where
  serial : Serial log
  refuses : RefusesAfterFinish log
  forGood : ClosedForGood log
  closed : isOpen = false ↔ Finishing log
  tells : TellsFinish log

variable {log : List (HandleEvent ρ)} {event : HandleEvent ρ} {isOpen : Bool}

theorem getElem?_concat
    {α : Type}
    {l : List α}
    {x y : α}
    {i : Nat}
    (hget : (l ++ [x])[i]? = some y) :
    l[i]? = some y ∨ (i = l.length ∧ x = y) := by
  by_cases hi : i < l.length
  · rw [List.getElem?_append_left hi] at hget
    exact .inl hget
  · rw [List.getElem?_append_right (by omega)] at hget
    obtain ⟨hlt, hx⟩ := List.getElem?_eq_some_iff.mp hget
    simp only [List.length_singleton] at hlt
    exact .inr ⟨by omega, by simpa using hx⟩

theorem getElem?_before
    {α : Type}
    {l : List α}
    {y : α}
    {i : Nat}
    (hget : l[i]? = some y)
    (x : α) :
    (l ++ [x])[i]? = some y := by
  rw [List.getElem?_append_left (List.getElem?_eq_some_iff.mp hget).1, hget]

theorem AtRest.concat
    (hrest : AtRest log)
    (hevent : ∀ a call, event ≠ .began a call) :
    AtRest (log ++ [event]) := by
  intro i a call hget
  rcases getElem?_concat hget with hget | ⟨-, heq⟩
  · obtain ⟨hsend, k, hik, hended⟩ := hrest i a call hget
    exact ⟨hsend, k, hik, getElem?_before hended _⟩
  · exact absurd heq (hevent a call)

/-- The driver has answered a send. -/
theorem AtRest.answered
    {id : Nat}
    {call : TxCall}
    (hrest : AtRest log)
    (hcall : call.finishes = false) :
    AtRest (log ++ [.began id call] ++ [.ended id call]) := by
  intro i a other hget
  rcases getElem?_concat hget with hget | ⟨-, heq⟩
  · rcases getElem?_concat hget with hget | ⟨rfl, heq⟩
    · obtain ⟨hsend, k, hik, hended⟩ := hrest i a other hget
      exact ⟨hsend, k, hik, getElem?_before (getElem?_before hended _) _⟩
    · obtain ⟨rfl, rfl⟩ := HandleEvent.began.inj heq
      exact ⟨hcall, log.length + 1, by omega, by simp⟩
  · cases heq

theorem Serial.concat
    (hserial : Serial log)
    (hevent : ∀ a call, event = .began a call → AtRest log) :
    Serial (log ++ [event]) := by
  intro i j a b call other hij hi hj
  rcases getElem?_concat hi with hi | ⟨hilen, -⟩ <;>
    rcases getElem?_concat hj with hj | ⟨hjlen, heq⟩
  · obtain ⟨hsend, k, hik, hkj, hended⟩ := hserial i j a b call other hij hi hj
    exact ⟨hsend, k, hik, hkj, getElem?_before hended _⟩
  · obtain ⟨hsend, k, hik, hended⟩ := hevent b other heq i a call hi
    obtain ⟨hlt, -⟩ := List.getElem?_eq_some_iff.mp hended
    exact ⟨hsend, k, hik, hjlen ▸ hlt, getElem?_before hended _⟩
  · obtain ⟨hlt, -⟩ := List.getElem?_eq_some_iff.mp hj
    omega
  · omega

theorem RefusesAfterFinish.concat
    (hrefuses : RefusesAfterFinish log)
    (hevent : ∀ a call, event ≠ .obtained a call) :
    RefusesAfterFinish (log ++ [event]) := by
  intro i j a b asked call hij hi hfinishes hj
  rcases getElem?_concat hj with hj | ⟨-, heq⟩
  · have hi : log[i]? = some (.began a asked) := by
      rcases getElem?_concat hi with hi | ⟨hilen, -⟩
      · exact hi
      · obtain ⟨hlt, -⟩ := List.getElem?_eq_some_iff.mp hj
        omega
    exact getElem?_before (hrefuses i j a b asked call hij hi hfinishes hj) _
  · exact absurd heq (hevent b call)

/-- A call that gets the lock when nothing was finished may go on. -/
theorem RefusesAfterFinish.obtain
    {id : Nat}
    {call : HandleCall}
    (hrefuses : RefusesAfterFinish log)
    (hevent : ∀ a other, event ≠ .obtained a other)
    (hrefused : Finishing log → event = .returned id call.refusal) :
    RefusesAfterFinish (log ++ [.obtained id call] ++ [event]) := by
  intro i j a b asked other hij hi hfinishes hj
  rcases getElem?_concat hj with hj | ⟨-, heq⟩
  · have hi : (log ++ [.obtained id call])[i]? = some (.began a asked) := by
      rcases getElem?_concat hi with hi | ⟨hilen, -⟩
      · exact hi
      · obtain ⟨hlt, -⟩ := List.getElem?_eq_some_iff.mp hj
        omega
    rcases getElem?_concat hi with hi | ⟨-, heq⟩
    · rcases getElem?_concat hj with hj | ⟨hjlen, heq⟩
      · have hnext := hrefuses i j a b asked other hij hi hfinishes hj
        exact getElem?_before (getElem?_before hnext _) _
      · obtain ⟨rfl, rfl⟩ := HandleEvent.obtained.inj heq
        rw [hrefused ⟨i, a, asked, hi, hfinishes⟩, hjlen]
        simp
    · cases heq
  · exact absurd heq (hevent b other)

theorem ClosedForGood.concat
    (hforGood : ClosedForGood log)
    (hevent : ∀ b, event = .returned b (.closed false) →
      ∀ (i a : Nat), log[i]? ≠ some (.returned a (.closed true))) :
    ClosedForGood (log ++ [event]) := by
  intro i j a b closed hij hi hj
  rcases getElem?_concat hi with hi | ⟨hilen, -⟩ <;>
    rcases getElem?_concat hj with hj | ⟨hjlen, heq⟩
  · exact hforGood i j a b closed hij hi hj
  · cases closed with
    | true => rfl
    | false => exact absurd hi (hevent b heq i a)
  · obtain ⟨hlt, -⟩ := List.getElem?_eq_some_iff.mp hj
    omega
  · omega

theorem Finishing.concat
    (hfinishing : Finishing log) :
    Finishing (log ++ [event]) := by
  obtain ⟨i, a, call, hget, hcall⟩ := hfinishing
  exact ⟨i, a, call, getElem?_before hget _, hcall⟩

theorem finishing_concat_iff :
    Finishing (log ++ [event])
      ↔ Finishing log ∨ ∃ a call, event = .began a call ∧ call.finishes = true := by
  constructor
  · rintro ⟨i, a, call, hget, hcall⟩
    rcases getElem?_concat hget with hget | ⟨-, heq⟩
    · exact .inl ⟨i, a, call, hget, hcall⟩
    · exact .inr ⟨a, call, heq, hcall⟩
  · rintro (hfinishing | ⟨a, call, rfl, hcall⟩)
    · exact hfinishing.concat
    · exact ⟨log.length, a, call, by simp, hcall⟩

theorem TellsFinish.concat
    (htells : TellsFinish log)
    (hevent : ∀ a, event = .returned a (.closed true) → Finishing log) :
    TellsFinish (log ++ [event]) := by
  intro i a hget
  rcases getElem?_concat hget with hget | ⟨-, heq⟩
  · exact (htells i a hget).concat
  · exact (hevent a heq).concat

/-- The driver ends, or something else than `isClosed` returns. -/
theorem Lawful.concat
    (hlawful : Lawful isOpen log)
    (hbegan : ∀ a call, event ≠ .began a call)
    (hobtained : ∀ a call, event ≠ .obtained a call)
    (hclosed : ∀ a closed, event ≠ .returned a (.closed closed)) :
    Lawful isOpen (log ++ [event]) where
  serial := hlawful.serial.concat fun a call heq => absurd heq (hbegan a call)
  refuses := hlawful.refuses.concat hobtained
  forGood := hlawful.forGood.concat fun b heq => absurd heq (hclosed b false)
  closed := by simp [finishing_concat_iff, hlawful.closed, hbegan]
  tells := hlawful.tells.concat fun a heq => absurd heq (hclosed a true)

/-- A call gets the lock, and returns or makes the driver work. -/
theorem Lawful.obtain
    {stays : Bool}
    {id : Nat}
    {call : HandleCall}
    (hlawful : Lawful isOpen log)
    (hbegan : ∀ a asked, event = .began a asked → AtRest log)
    (hobtained : ∀ a other, event ≠ .obtained a other)
    (hrefused : isOpen = false → event = .returned id call.refusal)
    (hclosed : ∀ a closed, event = .returned a (.closed closed) → closed = !isOpen)
    (hstays : stays = false
      ↔ isOpen = false ∨ ∃ a asked, event = .began a asked ∧ asked.finishes = true) :
    Lawful stays (log ++ [.obtained id call] ++ [event]) where
  serial := by
    refine (hlawful.serial.concat (by simp)).concat fun a asked heq => ?_
    exact (hbegan a asked heq).concat (by simp)
  refuses := hlawful.refuses.obtain hobtained fun hfinishing =>
    hrefused (hlawful.closed.mpr hfinishing)
  forGood := by
    refine (hlawful.forGood.concat (by simp)).concat fun b heq i a hget => ?_
    have hopen : false = !isOpen := hclosed b false heq
    have hget : log[i]? = some (.returned a (.closed true)) := by
      simpa using getElem?_concat hget
    have hshut := hlawful.closed.mpr (hlawful.tells i a hget)
    simp [hshut] at hopen
  closed := by
    rw [hstays, finishing_concat_iff, finishing_concat_iff, hlawful.closed]
    simp
  tells := by
    refine (hlawful.tells.concat (by simp)).concat fun a heq => ?_
    have hshut : true = !isOpen := hclosed a true heq
    exact (hlawful.closed.mp (by simpa using hshut.symm)).concat

end Histories

end QueryBatch
