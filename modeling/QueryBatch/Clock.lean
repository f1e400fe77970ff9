/-!
# Work on a virtual clock

A piece of `Work` runs from a world at a time, possibly under a cut-off: the earliest moment at
which something around it gives up. Time passes only in waits. A wait that would end after the
cut-off is cut there; one that ends at the cut-off is not, so work that finishes exactly at a
deadline succeeds, and so does work that needs no time although the deadline has passed.

What has to happen when work is left, however it ends, is attached with `Work.leaving`.
-/

namespace QueryBatch

/-- A line of the program's own log. -/
inductive Note
  /-- Something happened, inside the spans named from the outermost. -/
  | event (level : String) (fields : List (String × String)) (spans : List String)
  /-- Something became known about a span. -/
  | record (span : String) (fields : List (String × String))
  deriving DecidableEq, Repr

/-- Everything that work can see or change: the time in milliseconds, the log, the transactions
whose handles are still open, the state of the driver and the caller's own store. -/
structure World (σ : Type) (S : Type) where
  now : Nat
  /-- The spans that work is in, the innermost first. -/
  spans : List String
  /-- The log, the newest line first. -/
  notes : List Note
  openTx : List Nat
  driver : σ
  store : S

/-- How work ends. -/
inductive Ending (α : Type)
  /-- With an answer. -/
  | done (a : α)
  /-- At the cut-off. -/
  | cut
  /-- Never. -/
  | stuck
  deriving DecidableEq, Repr

/-- Work under a cut-off, from a world to an ending and the world then. -/
def Work (σ S α : Type) : Type := Option Nat → World σ S → Ending α × World σ S

namespace Work

variable {σ S α β : Type}

/-- Run work. -/
def run (w : Work σ S α) (cutoff : Option Nat) (world : World σ S) : Ending α × World σ S :=
  w cutoff world

instance : Monad (Work σ S) where
  pure a := fun _ world => (.done a, world)
  bind w f := fun cutoff world =>
    match w cutoff world with
    | (.done a, world) => f a cutoff world
    | (.cut, world) => (.cut, world)
    | (.stuck, world) => (.stuck, world)

/-- Look at the world. -/
def look (f : World σ S → α) : Work σ S α := fun _ world => (.done (f world), world)

/-- Change the world at once. -/
def change (f : World σ S → World σ S) : Work σ S Unit := fun _ world => (.done (), f world)

/-- Change the world at once, with an answer. -/
def step (f : World σ S → α × World σ S) : Work σ S α := fun _ world =>
  let (a, world) := f world
  (.done a, world)

/-- The time. -/
def now : Work σ S Nat := look World.now

/-- The state of the driver. -/
def driver : Work σ S σ := look World.driver

/-- Change the state of the driver. -/
def changeDriver (f : σ → σ) : Work σ S Unit :=
  change fun world => { world with driver := f world.driver }

/-- The caller's store. -/
def store : Work σ S S := look World.store

/-- Change the caller's store. -/
def changeStore (f : S → S) : Work σ S Unit :=
  change fun world => { world with store := f world.store }

/-- Wait until a moment, if it lies ahead. -/
def sleepUntil (wake : Nat) : Work σ S Unit := fun cutoff world =>
  if wake ≤ world.now then (.done (), world)
  else
    match cutoff with
    | none => (.done (), { world with now := wake })
    | some limit =>
        if wake ≤ limit then (.done (), { world with now := wake })
        else (.cut, { world with now := max world.now limit })

/-- Wait for so many milliseconds. -/
def sleep (ms : Nat) : Work σ S Unit := do
  let t ← now
  sleepUntil (t + ms)

/-- Wait for something that never comes. -/
def never : Work σ S α := fun cutoff world =>
  match cutoff with
  | none => (.stuck, world)
  | some limit => (.cut, { world with now := max world.now limit })

/-- The earlier of two cut-offs. -/
def earlier (deadline : Nat) : Option Nat → Nat
  | none => deadline
  | some limit => min deadline limit

/-- Give work up at a deadline, and answer nothing then. If a cut-off from outside lies before the
deadline, that one ends the work. -/
def giveUpAt (deadline : Nat) (w : Work σ S α) : Work σ S (Option α) := fun cutoff world =>
  match w (some (earlier deadline cutoff)) world with
  | (.done a, world) => (.done (some a), world)
  | (.stuck, world) => (.stuck, world)
  | (.cut, world) =>
      match cutoff with
      | none => (.done none, world)
      | some limit => if deadline ≤ limit then (.done none, world) else (.cut, world)

/-- Attach what has to happen once work is left, however it ends. -/
def leaving (w : Work σ S α) (leave : World σ S → World σ S) : Work σ S α := fun cutoff world =>
  let (ending, world) := w cutoff world
  (ending, leave world)

/-- Attach what has to happen if work is cut off. -/
def onCut (w : Work σ S α) (leave : World σ S → World σ S) : Work σ S α := fun cutoff world =>
  match w cutoff world with
  | (.cut, world) => (.cut, leave world)
  | other => other

/-- Run work inside a span of the log. -/
def inSpan (name : String) (w : Work σ S α) : Work σ S α := fun cutoff world =>
  let (ending, left) := w cutoff { world with spans := name :: world.spans }
  (ending, { left with spans := world.spans })

/-- Run work on a store of its own, and answer that store with what the work answers. -/
def withStore {T : Type} (init : T) (w : Work σ T α) : Work σ S (α × T) := fun cutoff world =>
  let (ending, left) := w cutoff
    { now := world.now, spans := world.spans, notes := world.notes, openTx := world.openTx,
      driver := world.driver, store := init }
  let back : World σ S :=
    { now := left.now, spans := left.spans, notes := left.notes, openTx := left.openTx,
      driver := left.driver, store := world.store }
  match ending with
  | .done a => (.done (a, left.store), back)
  | .cut => (.cut, back)
  | .stuck => (.stuck, back)

/-- Run work on a part of the driver's state. -/
def onPart {ν : Type} (get : σ → ν) (set : ν → σ → σ) (w : Work ν S α) : Work σ S α :=
  fun cutoff world =>
    let (ending, left) := w cutoff
      { now := world.now, spans := world.spans, notes := world.notes, openTx := world.openTx,
        driver := get world.driver, store := world.store }
    (ending,
      { now := left.now, spans := left.spans, notes := left.notes, openTx := left.openTx,
        driver := set left.driver world.driver, store := left.store })

end Work

namespace World

variable {σ S : Type}

/-- Write a line about something that happened. -/
def note (world : World σ S) (level : String) (fields : List (String × String)) : World σ S :=
  { world with notes := .event level fields world.spans.reverse :: world.notes }

/-- Write a line about something that happened outside of all spans. -/
def noteOutside (world : World σ S) (level : String) (fields : List (String × String)) :
    World σ S :=
  { world with notes := .event level fields [] :: world.notes }

/-- Write a line about the innermost span. -/
def record (world : World σ S) (fields : List (String × String)) : World σ S :=
  match world.spans with
  | [] => world
  | span :: _ => { world with notes := .record span fields :: world.notes }

end World
end QueryBatch
