import QueryBatch.Proofs.Postgres.Usage

/-!
# Idle connections are quiet

Whatever the users of a pool do and whatever happens on its lines, every idle connection is outside
of any block and has nothing left to run, and no spoiled connection is handed out again.

The invariant is `Usage.Accounted`: each call in progress, each transaction in the hands of a caller
and each spoiled connection has its stakes, and together they account for the state of the driver.
One lemma for each kind of call says that the invariant outlives its steps.
-/

namespace QueryBatch
namespace Postgres

variable {α : Type}

section Defs

/-- The connection that was spoiled. -/
def Handling.spoiled? : Handling → Option Nat
  | .handedOut _ => none
  | .spoiled connection => some connection

/-- A connection is not handed out after it was spoiled. -/
def Handling.MayFollow (later earlier : Handling) : Prop :=
  ∀ connection, later = .handedOut connection → earlier ≠ .spoiled connection

/-- A suspended call keeps a contract with the stakes that it has, whenever it goes on. -/
def Suspension.Waits (contract : Contract Unit α) (rest : Suspension α) (mine : List Stake) :
    Prop :=
  contract.during mine ∧ ∀ later others, Sound later.driver (mine ++ others) →
    contract.dropped (rest.dropped later) others ∧
      ∀ refusal task left, rest.resume refusal later = some (task, left) →
        task.Meets contract left others

/-- The scripts of an errand neither open nor end blocks. -/
def Errand.Plain : Errand → Prop
  | .script text => Postgres.Plain text
  | .begin | .batch _ => True

/-- What becomes of the connection of an errand. -/
def Errand.contract (errand : Errand) (live : Live) :
    Contract Unit (Except DriverError (Option Nat)) :=
  handedOut live (fun _ => True) fun answer left others =>
    match errand, answer with
    | .batch _, _ => Sound left.driver others
    | _, .error _ => ∃ line, Sound left.driver (⟨none, live, line⟩ :: others)
    | _, .ok none => Sound left.driver others
    | _, .ok (some tx) => ∃ line, Sound left.driver (⟨some tx, live, line⟩ :: others)

/-- Filling the pool takes nothing out of it. -/
def fillingContract : Contract Unit (Except DriverError Unit) where
  during mine := mine = []
  dropped left others := Sound left.driver others
  returned _ left others := Sound left.driver others

/-- A transaction that statements are sent in stays what it is. -/
def sendingContract (tx : Nat) : Contract Unit (Answers Row) where
  during mine := ∃ live line, mine = [⟨some tx, live, line⟩]
  dropped left others := ∃ live line, Sound left.driver (⟨some tx, live, line⟩ :: others)
  returned _ left others := ∃ live line, Sound left.driver (⟨some tx, live, line⟩ :: others)

/-- A transaction that ends gives its connection back, or its stake stays. -/
def finishingContract (tx : Nat) (live : Live) : Contract Unit (Except DriverError Unit) :=
  ending tx live (fun _ => True) fun answer left others =>
    match answer with
    | .ok () => Sound left.driver others
    | .error _ => ∃ line, Sound left.driver (⟨none, live, line⟩ :: others)

/-- A call in progress keeps its contract. -/
def Job.Waits (mine : List Stake) : Job → Prop
  | .asking errand rest => errand.Plain ∧ rest.Waits (checkingOut OfConnection) mine
  | .handed errand live rest => rest.Waits (errand.contract live) mine
  | .filling rest => rest.Waits fillingContract mine
  | .sending tx rest => rest.Waits (sendingContract tx) mine
  | .finishing tx live rest => rest.Waits (finishingContract tx live) mine

/-- The stakes of the calls in progress, of the transactions in the hands of callers, and of the
spoiled connections. -/
structure Usage.Accounts (usage : Usage) (portions : List (List Stake))
    (lent spoiled : List Stake) : Prop where
  jobs : List.Forall₂ (fun job mine => job.Waits mine) usage.jobs portions
  lent : List.Forall₂ (fun tx stake => stake.tx? = some tx) usage.lent lent
  spoiled : List.Forall₂ (fun connection stake =>
    stake.tx? = none ∧ stake.live.connection = connection)
      (usage.history.filterMap Handling.spoiled?) spoiled
  orderly : usage.history.Pairwise Handling.MayFollow

/-- Stakes are those of a pool in use, in any order. -/
def Usage.Accounted (usage : Usage) (stakes : List Stake) : Prop :=
  ∃ portions lent spoiled, usage.Accounts portions lent spoiled ∧
    stakes.Perm (portions.flatten ++ (lent ++ spoiled))

/-- All connections of a pool in use are accounted for. -/
def Usage.Sound (usage : Usage) : Prop :=
  ∃ stakes, usage.Accounted stakes ∧ Postgres.Sound usage.world.driver stakes

end Defs

section Lists

variable {β : Type} {R : α → β → Prop}

/-- Taking the same position out of two lists that agree. -/
theorem forall₂_eraseIdx
    {as : List α}
    {bs : List β}
    (hagree : List.Forall₂ R as bs)
    {index : Nat}
    {a : α}
    (ha : as[index]? = some a) :
    ∃ b, R a b ∧ bs.Perm (b :: bs.eraseIdx index) ∧
      List.Forall₂ R (as.eraseIdx index) (bs.eraseIdx index) := by
  induction hagree generalizing index with
  | nil => simp at ha
  | cons hfirst hrest ih =>
      rename_i a' b' as bs
      cases index with
      | zero =>
          obtain rfl : a' = a := by simpa using ha
          exact ⟨b', hfirst, .refl _, hrest⟩
      | succ index =>
          obtain ⟨b, hb, hperm, hleft⟩ := ih (by simpa using ha)
          exact ⟨b, hb, (hperm.cons b').trans (.swap b b' _), .cons hfirst hleft⟩

/-- What agrees with one of the first list is in the second one. -/
theorem mem_of_forall₂
    {as : List α}
    {bs : List β}
    (hagree : List.Forall₂ R as bs)
    {a : α}
    (ha : a ∈ as) :
    ∃ b ∈ bs, R a b := by
  induction hagree with
  | nil => cases ha
  | cons hfirst hrest ih =>
      rcases List.mem_cons.mp ha with rfl | ha
      · exact ⟨_, List.mem_cons_self, hfirst⟩
      · obtain ⟨b, hb, hab⟩ := ih ha
        exact ⟨b, List.mem_cons_of_mem _ hb, hab⟩

end Lists

namespace Usage

variable {usage : Usage} {stakes others mine : List Stake} {stake : Stake} {index : Nat}

namespace Accounted

/-- The stakes do not depend on the world. -/
theorem inWorld
    (haccounted : usage.Accounted stakes)
    (world : World (State Wire) Unit) :
    { usage with world := world }.Accounted stakes := by
  obtain ⟨portions, lent, spoiled, haccounts, hperm⟩ := haccounted
  exact ⟨portions, lent, spoiled,
    ⟨haccounts.jobs, haccounts.lent, haccounts.spoiled, haccounts.orderly⟩, hperm⟩

/-- A call in progress brings its stakes. -/
theorem addJob
    (haccounted : usage.Accounted stakes)
    {job : Job}
    (hjob : job.Waits mine) :
    { usage with jobs := job :: usage.jobs }.Accounted (mine ++ stakes) := by
  obtain ⟨portions, lent, spoiled, haccounts, hperm⟩ := haccounted
  refine ⟨mine :: portions, lent, spoiled,
    ⟨.cons hjob haccounts.jobs, haccounts.lent, haccounts.spoiled, haccounts.orderly⟩, ?_⟩
  rw [List.flatten_cons, List.append_assoc]
  exact hperm.append_left mine

theorem takeJob
    (haccounted : usage.Accounted stakes)
    {job : Job}
    (hjob : usage.jobs[index]? = some job) :
    ∃ mine rest, job.Waits mine ∧ stakes.Perm (mine ++ rest) ∧
      { usage with jobs := usage.jobs.eraseIdx index }.Accounted rest := by
  obtain ⟨portions, lent, spoiled, haccounts, hperm⟩ := haccounted
  obtain ⟨mine, hmine, hportions, hjobs⟩ := forall₂_eraseIdx haccounts.jobs hjob
  refine ⟨mine, (portions.eraseIdx index).flatten ++ (lent ++ spoiled), hmine, ?_,
    portions.eraseIdx index, lent, spoiled,
    ⟨hjobs, haccounts.lent, haccounts.spoiled, haccounts.orderly⟩, .refl _⟩
  have hflat := hportions.flatten.append_right (lent ++ spoiled)
  rw [List.flatten_cons, List.append_assoc] at hflat
  exact hperm.trans hflat

/-- A transaction brings its stake into the hands of its caller. -/
theorem lend
    (haccounted : usage.Accounted stakes)
    {tx : Nat}
    (htx : stake.tx? = some tx) :
    (usage.lend tx).Accounted (stake :: stakes) := by
  obtain ⟨portions, lent, spoiled, haccounts, hperm⟩ := haccounted
  refine ⟨portions, stake :: lent, spoiled,
    ⟨haccounts.jobs, .cons htx haccounts.lent, haccounts.spoiled, haccounts.orderly⟩, ?_⟩
  exact (hperm.cons stake).trans List.perm_middle.symm

theorem takeLent
    (haccounted : usage.Accounted stakes)
    {tx : Nat}
    (htx : usage.lent[index]? = some tx) :
    ∃ stake rest, stake.tx? = some tx ∧ stakes.Perm (stake :: rest) ∧
      { usage with lent := usage.lent.eraseIdx index }.Accounted rest := by
  obtain ⟨portions, lent, spoiled, haccounts, hperm⟩ := haccounted
  obtain ⟨stake, hstake, hlent, hleft⟩ := forall₂_eraseIdx haccounts.lent htx
  refine ⟨stake, portions.flatten ++ (lent.eraseIdx index ++ spoiled), hstake, ?_,
    portions, lent.eraseIdx index, spoiled,
    ⟨haccounts.jobs, hleft, haccounts.spoiled, haccounts.orderly⟩, .refl _⟩
  refine hperm.trans (.trans ?_ List.perm_middle)
  exact (hlent.append_right spoiled).append_left _

/-- A spoiled connection brings its stake. -/
theorem spoil
    (haccounted : usage.Accounted stakes)
    (live : Live)
    (line : Line) :
    (usage.spoil live).Accounted (⟨none, live, line⟩ :: stakes) := by
  obtain ⟨portions, lent, spoiled, haccounts, hperm⟩ := haccounted
  refine ⟨portions, lent, ⟨none, live, line⟩ :: spoiled,
    ⟨haccounts.jobs, haccounts.lent, .cons ⟨rfl, rfl⟩ haccounts.spoiled,
      .cons (fun _ _ _ h => nomatch h) haccounts.orderly⟩, ?_⟩
  have hmiddle : (portions.flatten ++ (lent ++ ⟨none, live, line⟩ :: spoiled)).Perm
      (⟨none, live, line⟩ :: (portions.flatten ++ (lent ++ spoiled))) := by
    rw [← List.append_assoc, ← List.append_assoc]
    exact List.perm_middle
  exact (hperm.cons _).trans hmiddle.symm

/-- A connection that nobody else has may be handed out. -/
theorem handOut
    (haccounted : usage.Accounted stakes)
    {live : Live}
    (halone : ∀ stake ∈ stakes, stake.live.connection ≠ live.connection) :
    (usage.record (.handedOut live.connection)).Accounted stakes := by
  obtain ⟨portions, lent, spoiled, haccounts, hperm⟩ := haccounted
  refine ⟨portions, lent, spoiled,
    ⟨haccounts.jobs, haccounts.lent, haccounts.spoiled, .cons ?_ haccounts.orderly⟩, hperm⟩
  rintro earlier hmem connection hout rfl
  obtain rfl : live.connection = connection := Handling.handedOut.inj hout
  have hspoiled : live.connection ∈ usage.history.filterMap Handling.spoiled? :=
    List.mem_filterMap.mpr ⟨_, hmem, rfl⟩
  obtain ⟨stake, hstake, -, hconnection⟩ := mem_of_forall₂ haccounts.spoiled hspoiled
  exact halone stake (hperm.mem_iff.mpr (by simp [hstake])) hconnection

end Accounted

/-- A call that runs until it waits or returns has kept its contract until then. -/
theorem meets_advance
    {task : Task Wire Unit α}
    {contract : Contract Unit α}
    {world : World (State Wire) Unit}
    (hmeets : task.Meets contract world others) :
    match task.advance world with
    | (.inl a, left) => contract.returned a left others
    | (.inr rest, left) => ∃ mine, Postgres.Sound left.driver (mine ++ others) ∧
        rest.Waits contract mine := by
  induction task generalizing world with
  | done a => exact hmeets
  | act next change ih => exact ih world hmeets
  | wait w next dropped ih =>
      obtain ⟨mine, hsound, hmine, hlater⟩ := hmeets
      refine ⟨mine, hsound, hmine, fun later others hsound => ?_⟩
      obtain ⟨hdropped, hnext⟩ := hlater later others hsound
      refine ⟨hdropped, fun refusal task left hresume => ?_⟩
      simp only [Suspension.resume, Option.map_eq_some_iff, Prod.mk.injEq] at hresume
      obtain ⟨⟨answer, world⟩, hanswer, rfl, rfl⟩ := hresume
      exact hnext refusal answer world hanswer

/-- A pool stays accounted for when a call runs until it waits or returns. -/
theorem sound_proceed
    {task : Task Wire Unit α}
    {contract : Contract Unit α}
    {stop : Suspension α → Job}
    {done : α → Usage → Usage}
    (hmeets : task.Meets contract usage.world others)
    (haccounted : usage.Accounted others)
    (hstop : ∀ rest mine, rest.Waits contract mine → (stop rest).Waits mine)
    (hdone : ∀ a left, contract.returned a left others →
      (done a { usage with world := left }).Sound) :
    (usage.proceed task stop done).Sound := by
  have hadvance := meets_advance hmeets
  unfold proceed
  rcases hrun : task.advance usage.world with ⟨a | rest, left⟩
  · rw [hrun] at hadvance
    exact hdone a left hadvance
  · rw [hrun] at hadvance
    obtain ⟨mine, hsound, hwaits⟩ := hadvance
    exact ⟨mine ++ others, (haccounted.inWorld left).addJob (hstop rest mine hwaits), hsound⟩

/-- An errand does with its connection what it promises. -/
theorem meets_use
    {errand : Errand}
    {world : World (State Wire) Unit}
    {live : Live}
    {line : Line}
    (hplain : errand.Plain)
    (hholding : Holding none live line world others)
    (hquiet : line.Quiet) :
    (errand.use live).Meets (errand.contract live) world others := by
  have hdropped : ∀ {known : Line → Prop} (left : World (State Wire) Unit) others,
      (∃ line, Postgres.Sound left.driver (⟨none, live, line⟩ :: others) ∧ known line) →
        (errand.contract live).dropped left others := by
    rintro known left others ⟨line, hsound, -⟩
    exact ⟨line, hsound, trivial⟩
  cases errand with
  | begin =>
      apply Task.Meets.bind
      refine (meets_beginOn hholding).imp (fun _ h => h) hdropped ?_
      rintro (e | tx) left others ⟨later, hlater⟩
      · exact ⟨later, hlater.1⟩
      · exact ⟨later, hlater.1.sound⟩
  | script text =>
      apply Task.Meets.bind
      refine (meets_scriptOn hplain hholding hquiet).imp (fun _ h => h) hdropped ?_
      rintro (e | _) left others hleft
      · exact hleft
      · exact hleft
  | batch statements =>
      apply Task.Meets.bind
      refine (meets_batchOn statements hholding hquiet).imp (fun _ h => h) hdropped ?_
      rintro answers left others ⟨hleft, -⟩
      exact hleft

theorem sound_hand
    {errand : Errand}
    {live : Live}
    {task : Task Wire Unit (Except DriverError (Option Nat))}
    (hmeets : task.Meets (errand.contract live) usage.world others)
    (haccounted : usage.Accounted others) :
    (usage.hand errand live task).Sound := by
  refine sound_proceed hmeets haccounted (fun rest mine hrest => hrest) ?_
  intro answer left hleft
  have haccounted := haccounted.inWorld left
  have hspoiled : (∃ line, Postgres.Sound left.driver (⟨none, live, line⟩ :: others)) →
      ({ usage with world := left }.spoil live).Sound := by
    rintro ⟨line, hsound⟩
    exact ⟨_, haccounted.spoil live line, hsound⟩
  have hlent : ∀ tx, (∃ line, Postgres.Sound left.driver (⟨some tx, live, line⟩ :: others)) →
      ({ usage with world := left }.lend tx).Sound := by
    rintro tx ⟨line, hsound⟩
    exact ⟨_, haccounted.lend rfl, hsound⟩
  have hback : Postgres.Sound left.driver others → { usage with world := left }.Sound :=
    fun hsound => ⟨others, haccounted, hsound⟩
  rcases errand with _ | text | statements <;> rcases answer with e | _ | tx
  · exact hspoiled hleft
  · exact hback hleft
  · exact hlent tx hleft
  · exact hspoiled hleft
  · exact hback hleft
  · exact hlent tx hleft
  all_goals exact hback hleft

theorem sound_ask
    {errand : Errand}
    {task : Task Wire Unit (Except DriverError Live)}
    (hplain : errand.Plain)
    (hmeets : task.Meets (checkingOut OfConnection) usage.world others)
    (haccounted : usage.Accounted others) :
    (usage.ask errand task).Sound := by
  refine sound_proceed hmeets haccounted (fun rest mine hrest => ⟨hplain, hrest⟩) ?_
  rintro (e | live) left hleft
  · exact ⟨others, haccounted.inWorld left, hleft.1⟩
  · obtain ⟨line, hholding, hquiet⟩ := hleft
    have halone := hholding.sound.alone.2.1
    exact sound_hand (meets_use hplain hholding hquiet) ((haccounted.inWorld left).handOut halone)

theorem sound_fill
    {task : Task Wire Unit (Except DriverError Unit)}
    (hmeets : task.Meets fillingContract usage.world others)
    (haccounted : usage.Accounted others) :
    (usage.fill task).Sound :=
  sound_proceed hmeets haccounted (fun _ _ hrest => hrest)
    fun _ left hleft => ⟨others, haccounted.inWorld left, hleft⟩

theorem sound_send
    {tx : Nat}
    {task : Task Wire Unit (Answers Row)}
    (hmeets : task.Meets (sendingContract tx) usage.world others)
    (haccounted : usage.Accounted others) :
    (usage.send tx task).Sound := by
  refine sound_proceed hmeets haccounted (fun _ _ hrest => hrest) ?_
  rintro answers left ⟨live, line, hleft⟩
  exact ⟨_, (haccounted.inWorld left).lend rfl, hleft⟩

theorem sound_finish
    {tx : Nat}
    {live : Live}
    {task : Task Wire Unit (Except DriverError Unit)}
    (hmeets : task.Meets (finishingContract tx live) usage.world others)
    (haccounted : usage.Accounted others) :
    (usage.finish tx live task).Sound := by
  refine sound_proceed hmeets haccounted (fun _ _ hrest => hrest) ?_
  rintro (e | _) left hleft
  · obtain ⟨line, hsound⟩ := hleft
    exact ⟨_, (haccounted.inWorld left).spoil live line, hsound⟩
  · exact ⟨others, haccounted.inWorld left, hleft⟩

/-- The end of a transaction gives its connection back or spoils it. -/
theorem meets_ended
    {tx : Nat}
    {live : Live}
    {line : Line}
    {world : World (State Wire) Unit}
    {command : String}
    (hends : (Request.script command).endsBlock = true)
    (hholding : Holding (some tx) live line world others) :
    (Wire.network.finish command tx).Meets (finishingContract tx live) world others := by
  refine (meets_finish hends hholding).imp (fun _ h => h) ?_ ?_
  · rintro left others ⟨line, hsound, -⟩
    exact ⟨line, hsound, trivial⟩
  · rintro (e | _) left others hleft
    · obtain ⟨-, line, hsound, -⟩ := hleft
      exact ⟨line, hsound⟩
    · exact hleft.1

/-- A call that goes on leaves the pool accounted for. -/
theorem sound_resume
    {job : Job}
    {later : Usage}
    {refusal : Option Fault}
    (haccounted : usage.Accounted others)
    (hjob : job.Waits mine)
    (hsound : Postgres.Sound usage.world.driver (mine ++ others))
    (hresume : usage.resume refusal job = some later) :
    later.Sound := by
  cases job with
  | asking errand rest =>
      simp only [resume, Option.map_eq_some_iff] at hresume
      obtain ⟨⟨task, left⟩, hready, rfl⟩ := hresume
      obtain ⟨hplain, hwaits⟩ := hjob
      have hmeets := (hwaits.2 _ _ hsound).2 refusal task left hready
      exact sound_ask hplain hmeets (haccounted.inWorld left)
  | handed errand live rest =>
      simp only [resume, Option.map_eq_some_iff] at hresume
      obtain ⟨⟨task, left⟩, hready, rfl⟩ := hresume
      have hmeets := (hjob.2 _ _ hsound).2 refusal task left hready
      exact sound_hand hmeets (haccounted.inWorld left)
  | filling rest =>
      simp only [resume, Option.map_eq_some_iff] at hresume
      obtain ⟨⟨task, left⟩, hready, rfl⟩ := hresume
      have hmeets := (hjob.2 _ _ hsound).2 refusal task left hready
      exact sound_fill hmeets (haccounted.inWorld left)
  | sending tx rest =>
      simp only [resume, Option.map_eq_some_iff] at hresume
      obtain ⟨⟨task, left⟩, hready, rfl⟩ := hresume
      have hmeets := (hjob.2 _ _ hsound).2 refusal task left hready
      exact sound_send hmeets (haccounted.inWorld left)
  | finishing tx live rest =>
      simp only [resume, Option.map_eq_some_iff] at hresume
      obtain ⟨⟨task, left⟩, hready, rfl⟩ := hresume
      have hmeets := (hjob.2 _ _ hsound).2 refusal task left hready
      exact sound_finish hmeets (haccounted.inWorld left)

/-- A call that is dropped leaves the pool accounted for. -/
theorem sound_drop
    {job : Job}
    (haccounted : usage.Accounted others)
    (hjob : job.Waits mine)
    (hsound : Postgres.Sound usage.world.driver (mine ++ others)) :
    (usage.drop job).Sound := by
  cases job with
  | asking errand rest =>
      exact ⟨others, haccounted.inWorld _, (hjob.2.2 _ _ hsound).1⟩
  | handed errand live rest =>
      obtain ⟨line, hline, -⟩ := (hjob.2 _ _ hsound).1
      exact ⟨_, (haccounted.inWorld _).spoil live line, hline⟩
  | filling rest =>
      exact ⟨others, haccounted.inWorld _, (hjob.2 _ _ hsound).1⟩
  | sending tx rest =>
      obtain ⟨live, line, hline⟩ := (hjob.2 _ _ hsound).1
      exact ⟨_, (haccounted.inWorld _).lend rfl, hline⟩
  | finishing tx live rest =>
      obtain ⟨line, hline, -⟩ := (hjob.2 _ _ hsound).1
      exact ⟨_, (haccounted.inWorld _).spoil live line, hline⟩

/-- A transaction that is taken out of the hands of its caller has the stake that it is found
with. -/
theorem sound_borrow
    {tx : Nat}
    {live : Live}
    {left : Usage}
    (hsound : usage.Sound)
    (hborrow : usage.borrow index = some (tx, live, left)) :
    ∃ line rest, Holding (some tx) live line left.world rest ∧ left.Accounted rest := by
  obtain ⟨stakes, haccounted, hsound⟩ := hsound
  unfold borrow at hborrow
  cases htx : usage.lent[index]? with
  | none => simp [htx] at hborrow
  | some first =>
      obtain ⟨⟨tx?, other, line⟩, rest, rfl, hperm, hrest⟩ := haccounted.takeLent htx
      have hsound := hsound.perm hperm
      simp only [htx, hsound.lookup rfl, Option.map_some, Option.some.injEq, Prod.mk.injEq]
        at hborrow
      obtain ⟨rfl, rfl, rfl⟩ := hborrow
      exact ⟨_, rest, hsound.holding, hrest⟩

/-- Whatever happens to a pool in use, it stays accounted for. -/
theorem sound_next
    {action : Action}
    {later : Usage}
    (hsound : usage.Sound)
    (hplain : action.Plain)
    (hnext : usage.next action = some later) :
    later.Sound := by
  have hpasses : ∀ {left : World (State Wire) Unit}, Passes usage.world left →
      { usage with world := left }.Sound := by
    intro left hleft
    obtain ⟨stakes, haccounted, hstakes⟩ := hsound
    exact ⟨stakes, haccounted.inWorld left, hstakes.passes hleft⟩
  cases steps_of_next hnext with
  | calls errand =>
      obtain ⟨stakes, haccounted, hstakes⟩ := hsound
      have herrand : errand.Plain := by
        cases errand <;> exact hplain
      exact sound_ask herrand (meets_acquire hstakes) haccounted
  | fills =>
      obtain ⟨stakes, haccounted, hstakes⟩ := hsound
      exact sound_fill (meets_fillTask hstakes) haccounted
  | sends hborrow statements =>
      obtain ⟨line, rest, hholding, haccounted⟩ := sound_borrow hsound hborrow
      refine sound_send ((meets_sendIn statements hholding).imp ?_ ?_ ?_) haccounted
      · rintro mine ⟨line, rfl⟩
        exact ⟨_, line, rfl⟩
      · rintro left others ⟨line, hline, -⟩
        exact ⟨_, line, hline⟩
      · rintro answers left others ⟨line, hline, -⟩
        exact ⟨_, line, hline.sound⟩
  | commits hborrow =>
      obtain ⟨line, rest, hholding, haccounted⟩ := sound_borrow hsound hborrow
      exact sound_finish (meets_ended (by decide) hholding) haccounted
  | rollsBack hborrow =>
      obtain ⟨line, rest, hholding, haccounted⟩ := sound_borrow hsound hborrow
      exact sound_finish (meets_ended (by decide) hholding) haccounted
  | letsGo hborrow =>
      obtain ⟨line, rest, hholding, haccounted⟩ := sound_borrow hsound hborrow
      exact ⟨_, (haccounted.inWorld _).spoil _ line, hholding.sound.abandon⟩
  | polls hjob hresume =>
      obtain ⟨stakes, haccounted, hstakes⟩ := hsound
      obtain ⟨mine, rest, hwaits, hperm, hrest⟩ := haccounted.takeJob hjob
      exact sound_resume hrest hwaits (hstakes.perm hperm) hresume
  | drops hjob =>
      obtain ⟨stakes, haccounted, hstakes⟩ := hsound
      obtain ⟨mine, rest, hwaits, hperm, hrest⟩ := haccounted.takeJob hjob
      exact sound_drop hrest hwaits (hstakes.perm hperm)
  | moves connection move => exact hpasses (.changeNetwork (.move _ _))
  | passes ms => exact hpasses (.of_driver rfl rfl)
  | closes =>
      obtain ⟨stakes, haccounted, hstakes⟩ := hsound
      exact ⟨stakes, haccounted.inWorld _, hstakes.closed⟩

theorem sound_start
    (options : PoolOptions)
    (future : List Turn) :
    (start options future).Sound := by
  refine ⟨[], ⟨[], [], [], ⟨.nil, .nil, .nil, .nil⟩, .refl _⟩, ?_⟩
  exact ⟨List.nodup_nil, by simp [connections, start, State.start, Pool.new], fun _ _ => rfl,
    by simp [start, State.start, Pool.new], .refl _, List.nodup_nil,
    by simp [start, State.start], by simp⟩

/-- A pool in use is accounted for after any actions. -/
theorem Sound.after
    {actions : List Action}
    {later : Usage}
    (hsound : usage.Sound)
    (hplain : ∀ action ∈ actions, action.Plain)
    (hafter : usage.after actions = some later) :
    later.Sound := by
  induction actions generalizing usage with
  | nil =>
      obtain rfl := Option.some.inj hafter
      exact hsound
  | cons action rest ih =>
      unfold after at hafter
      cases hnext : usage.next action with
      | none => simp [hnext] at hafter
      | some between =>
          simp only [hnext] at hafter
          have hbetween := sound_next hsound (hplain action List.mem_cons_self) hnext
          exact ih hbetween (fun other hmem => hplain other (List.mem_cons_of_mem _ hmem)) hafter

end Usage

section Reached

/-- A state of the driver that a pool in use can come to. -/
def Reached (state : State Wire) : Prop :=
  ∃ options future actions usage, (∀ action ∈ actions, action.Plain) ∧
    (Usage.start options future).after actions = some usage ∧ usage.world.driver = state

theorem Reached.sound
    {state : State Wire}
    (hreached : Reached state) :
    ∃ stakes, Sound state stakes := by
  obtain ⟨options, future, actions, usage, hplain, hafter, rfl⟩ := hreached
  obtain ⟨stakes, -, hsound⟩ := (Usage.sound_start options future).after hplain hafter
  exact ⟨stakes, hsound⟩

/-- Whatever the users of a pool do, and whatever the server and the network do to its lines: every
idle connection is outside of any block and has nothing left to run, and no connection is handed out
after it was spoiled. -/
theorem idle_connections_are_quiet
    (options : PoolOptions)
    (future : List Turn)
    {actions : List Action}
    {usage : Usage}
    (hplain : ∀ action ∈ actions, action.Plain)
    (hafter : (Usage.start options future).after actions = some usage) :
    (∀ entry ∈ usage.world.driver.pool.idle,
      (usage.world.driver.network.line entry.live.connection).session.block = .none ∧
        (usage.world.driver.network.line entry.live.connection).pending = []) ∧
      usage.history.Pairwise fun later earlier =>
        ∀ connection, later = .handedOut connection → earlier ≠ .spoiled connection := by
  obtain ⟨stakes, ⟨portions, lent, spoiled, haccounts, -⟩, hsound⟩ :=
    (Usage.sound_start options future).after hplain hafter
  exact ⟨hsound.quiet, haccounts.orderly⟩

/-- A caller begins a transaction; another one is dropped in the middle of a batch; the first one
commits, and its connection is reused for a script, which fails. -/
def busyHour : List Action :=
  [.call .begin, .poll 0 none, .poll 0 none, .move 0 (.run (.accepted {})), .move 0 .tell,
    .poll 0 none,
    .call (.batch [⟨Sql.positional "SELECT 1" [], .query⟩, ⟨Sql.positional "SELECT 2" [], .query⟩]),
    .poll 0 none, .poll 0 none, .move 1 (.run (.accepted {})), .drop 0,
    .commit 0, .move 0 (.run (.accepted {})), .move 0 .tell, .poll 0 none,
    .call (.script "VACUUM"), .poll 0 none, .move 0 (.run .refused), .move 0 .tell, .poll 0 none,
    .call .begin, .poll 0 none, .poll 0 none, .move 2 (.run (.accepted {})), .move 2 .tell,
    .poll 0 none, .rollback 0, .move 2 (.run (.accepted {})), .move 2 .tell, .poll 0 none]

theorem idle_connections_are_quiet_after_busy_hour :
    ∃ usage, (∀ action ∈ busyHour, action.Plain) ∧
      (Usage.start {} []).after busyHour = some usage ∧
      usage.world.driver.pool.idle.map (fun entry => entry.live.connection) = [2] ∧
      usage.history = [.handedOut 2, .spoiled 0, .handedOut 0, .spoiled 1, .handedOut 1,
        .handedOut 0] ∧
      (∀ entry ∈ usage.world.driver.pool.idle,
        (usage.world.driver.network.line entry.live.connection).session.block = .none ∧
          (usage.world.driver.network.line entry.live.connection).pending = []) ∧
      usage.history.Pairwise fun later earlier =>
        ∀ connection, later = .handedOut connection → earlier ≠ .spoiled connection := by
  have hplain : ∀ action ∈ busyHour, action.Plain := by
    simp [busyHour, Action.Plain, Plain]
  obtain ⟨usage, hafter⟩ : ∃ usage, (Usage.start {} []).after busyHour = some usage :=
    Option.isSome_iff_exists.mp (by rfl)
  have hseen : ((Usage.start {} []).after busyHour).map (fun usage =>
      (usage.world.driver.pool.idle.map (fun entry => entry.live.connection), usage.history))
      = some ([2], [.handedOut 2, .spoiled 0, .handedOut 0, .spoiled 1, .handedOut 1,
        .handedOut 0]) := by
    rfl
  rw [hafter, Option.map_some, Option.some.injEq, Prod.mk.injEq] at hseen
  exact ⟨usage, hplain, hafter, hseen.1, hseen.2, idle_connections_are_quiet {} [] hplain hafter⟩

end Reached
end Postgres
end QueryBatch
