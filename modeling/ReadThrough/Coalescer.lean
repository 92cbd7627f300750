import ReadThrough.Error
import ReadThrough.Store.Table
import ReadThrough.Text.Quoted
import ReadThrough.Value

/-!
# One fetch per key

Callers that miss the same key at the same time should cost the origin one fetch. The coalescer
keeps the fetches that are under way in a table by key. Whoever asks for a key with no fetch
under way starts one and leads it; everybody else joins the fetch that is there, and what they
brought along (their plan) is dropped. All of them get the one result.

A fetch goes through stages of its own, whoever still waits for it: it is queued, it asks the
origin, and if the origin answers it carries out its leader's plan before anybody is answered.
It ends with the origin's answer, or with the first error on the way; a crash on the way is
caught and becomes an error of the origin.

A key is given free in the same step in which its fetch ends. So nobody can see a result while
its key is still taken, and whoever asks after seeing it starts a new fetch. A fetch that ends
gives free only the entry that names it.
-/

set_option autoImplicit false

namespace ReadThrough

/-- How far a fetch has come. -/
inductive Fetch.Stage where
  /-- Not begun. -/
  | queued
  /-- The origin has been asked. -/
  | asking
  /-- The origin has answered; the leader's plan is being carried out. -/
  | storing (answer : Fetched)
  /-- Over, with the result for everybody who waits. -/
  | ended (result : Except Error Fetched)

/-- One fetch: its key, what its leader wants done, and how far it has come. -/
structure Fetch (σ : Type) where
  key : String
  plan : σ
  stage : Fetch.Stage

/-- A caller's part in a fetch. -/
structure Flight where
  fetch : Nat
  /-- The caller started the fetch. -/
  leader : Bool
  deriving DecidableEq, Repr

/-- All fetches so far, numbered in the order in which they were started, and for each key with
a fetch under way the number of that fetch. -/
structure Coalescer (σ : Type) where
  inFlight : Table String Nat
  fetches : List (Fetch σ)

namespace Coalescer

variable {σ : Type}

/-- Nothing has been fetched. -/
def empty : Coalescer σ := ⟨.empty, []⟩

instance : Inhabited (Coalescer σ) := ⟨empty⟩

/-- Starts a fetch of the key that follows `plan`. -/
def start (c : Coalescer σ) (key : String) (plan : σ) : Coalescer σ :=
  ⟨c.inFlight.insert key c.fetches.length, c.fetches ++ [⟨key, plan, .queued⟩]⟩

/-- Joins the fetch of the key that is under way, or starts one that follows `plan`. -/
def join (c : Coalescer σ) (key : String) (plan : σ) : Coalescer σ × Flight :=
  match c.inFlight.get? key with
  | some id => (c, ⟨id, false⟩)
  | none => (c.start key plan, ⟨c.fetches.length, true⟩)

/-- The result of a fetch, once it is over. -/
def result? (c : Coalescer σ) (id : Nat) : Option (Except Error Fetched) :=
  match c.fetches[id]? with
  | some ⟨_, _, .ended r⟩ => some r
  | _ => none

/-- The keys with a fetch under way, counted. -/
def underWay (c : Coalescer σ) : Nat := c.inFlight.size

/-- Whether the key has a fetch under way. -/
def isUnderWay (c : Coalescer σ) (key : String) : Bool := (c.inFlight.get? key).isSome

/-! ## The life of a fetch -/

/-- Moves a fetch on to another stage. -/
def setStage (c : Coalescer σ) (id : Nat) (s : Fetch.Stage) : Coalescer σ :=
  { c with fetches := c.fetches.modify id fun f => { f with stage := s } }

/-- Gives the key free if its entry is the one of this fetch. -/
def release (c : Coalescer σ) (key : String) (id : Nat) : Coalescer σ :=
  if c.inFlight.get? key = some id then { c with inFlight := c.inFlight.erase key }
  else c

/-- What waiters are told of a crash inside a fetch. -/
def crashError (text : String) : Error :=
  .origin ("origin task failed: task # panicked with message " ++ Text.quote text)

/-- Gives the key of a fetch free, and then ends the fetch. -/
def finish (c : Coalescer σ) (key : String) (id : Nat) (r : Except Error Fetched) :
    Coalescer σ :=
  (c.release key id).setStage id (.ended r)

/-- A queued fetch begins: its origin is to be asked for its key. -/
def ask? (c : Coalescer σ) (id : Nat) : Option (Fetch σ × Coalescer σ) :=
  match c.fetches[id]? with
  | some ⟨key, plan, .queued⟩ => some (⟨key, plan, .queued⟩, c.setStage id .asking)
  | _ => none

/-- The origin's answer arrives. A value goes on to the leader's plan; anything else is the
end. -/
def receive? (c : Coalescer σ) (id : Nat) (r : Outcome Fetched) :
    Option (Fetch σ × Coalescer σ) :=
  match c.fetches[id]? with
  | some ⟨key, plan, .asking⟩ =>
    some (⟨key, plan, .asking⟩,
      match r with
      | .ok a => c.setStage id (.storing a)
      | .failed e => c.finish key id (.error e)
      | .crashed t => c.finish key id (.error (crashError t)))
  | _ => none

/-- The leader's plan has been carried out, or has failed; either way the fetch is over. -/
def conclude? (c : Coalescer σ) (id : Nat) (r : Outcome Unit) : Option (Coalescer σ) :=
  match c.fetches[id]? with
  | some ⟨key, _, .storing a⟩ =>
    some (c.finish key id ((r.map fun _ => a).caught crashError))
  | _ => none

end Coalescer

end ReadThrough
