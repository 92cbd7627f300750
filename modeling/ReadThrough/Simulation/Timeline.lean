/-!
# A timeline

Things that will happen stand on a timeline, each at a whole number of milliseconds. The clock
moves only when nothing is left to do at its present reading, and then straight to the next
thing that is due. Things due at the same reading happen in the order in which they were put
there, so what somebody has already announced comes before what is announced in reply.

A thing that takes no time at all is not announced: it happens next (`now`), before anything
else that is due.

`Clockwork` is anything that runs by a timeline. Its runs are bounded by a number of moves that
the caller gives.
-/

set_option autoImplicit false

namespace ReadThrough.Simulation

/-- A clock in milliseconds and what will happen, with the reading at which it is due. -/
structure Timeline (ι : Type) where
  clock : Nat
  entries : List (Nat × ι)
  deriving Repr

namespace Timeline

variable {ι : Type}

/-- Nothing will happen. -/
def empty : Timeline ι := ⟨0, []⟩

instance : Inhabited (Timeline ι) := ⟨empty⟩

/-- Before anything else. -/
def now (t : Timeline ι) (x : ι) : Timeline ι := { t with entries := (t.clock, x) :: t.entries }

/-- At the present reading, after everything that is due by then. -/
def soon (t : Timeline ι) (x : ι) : Timeline ι :=
  { t with entries := t.entries ++ [(t.clock, x)] }

/-- After a number of milliseconds; after none, before anything else. -/
def after (t : Timeline ι) (ms : Nat) (x : ι) : Timeline ι :=
  if ms = 0 then t.now x else { t with entries := t.entries ++ [(t.clock + ms, x)] }

/-- The reading at which the next thing is due. -/
def due? (t : Timeline ι) : Option Nat := (t.entries.map (·.1)).min?

/-- The next thing to happen, and the timeline once the clock has come to it. -/
def next? (t : Timeline ι) : Option (ι × Timeline ι) :=
  t.due?.bind fun due =>
    (t.entries.findIdx? (·.1 == due)).bind fun i =>
      (t.entries[i]?).map fun e => (e.2, ⟨max t.clock due, t.entries.eraseIdx i⟩)

/-- Whether the next thing is due no later than `horizon`. -/
def isDueBy (t : Timeline ι) (horizon : Nat) : Bool :=
  (t.due?.map fun due => decide (due ≤ horizon)).getD false

end Timeline

/-- A state that runs by a timeline: where its timeline is, and how it takes what happens. -/
structure Clockwork (σ ι : Type) where
  timeline : σ → Timeline ι
  setTimeline : σ → Timeline ι → σ
  take : σ → ι → σ

namespace Clockwork

variable {σ ι : Type}

/-- What happens next, whenever it is due. -/
def move? (c : Clockwork σ ι) (s : σ) : Option σ :=
  (c.timeline s).next?.map fun (x, t) => c.take (c.setTimeline s t) x

/-- Moves on while `going` holds and something is left to happen. -/
def runWhile (c : Clockwork σ ι) (going : σ → Bool) : Nat → σ → σ
  | 0, s => s
  | moves + 1, s =>
    if going s then
      match c.move? s with
      | some s => runWhile c going moves s
      | none => s
    else s

/-- Lets everything happen that is due by now. -/
def settle (c : Clockwork σ ι) (moves : Nat) (s : σ) : σ :=
  c.runWhile (fun s => (c.timeline s).isDueBy (c.timeline s).clock) moves s

/-- Lets everything happen that is due within `ms` milliseconds, and leaves the clock there. -/
def sleep (c : Clockwork σ ι) (moves ms : Nat) (s : σ) : σ :=
  let horizon := (c.timeline s).clock + ms
  let s := c.runWhile (fun s => (c.timeline s).isDueBy horizon) moves s
  c.setTimeline s { c.timeline s with clock := horizon }

/-- Waits until `done` holds, and then lets everything happen that is due by then. -/
def await (c : Clockwork σ ι) (moves : Nat) (done : σ → Bool) (s : σ) : σ :=
  c.settle moves (c.runWhile (fun s => !done s) moves s)

end Clockwork


end ReadThrough.Simulation
