import ReadThrough.Coalescer
import ReadThrough.Key
import ReadThrough.Log
import ReadThrough.Policy
import ReadThrough.Pool

/-!
# The proxy: its parts and its surroundings

A proxy answers lookups from a store or from an origin. It touches neither itself. It is told
what happens around it (`Event`) and says what is to be done (`Effect`); whoever runs it
carries the effects out, in whatever time they take, and reports back. So every order in which
callers, origins, the store and clocks can act is an order of events, and nothing in the proxy
depends on which order it is.

Four kinds of task act inside a proxy: callers, the fetches they share, the jobs of the
background pool, and saves, which are writes that a caller starts and waits for but that go on
without it. A task that has something to do is woken, and acts when it is resumed.
-/

set_option autoImplicit false

namespace ReadThrough

/-- What is done with the origin's answer once a fetch has it. -/
inductive AfterFetch where
  /-- Write it under the store key before anybody is answered. -/
  | writeThrough (policy : Policy) (storeKey : String)
  /-- Give the pool a job that writes it, and give the guard back. -/
  | writeBack (policy : Policy) (storeKey : String) (guard : Nat)
  deriving Repr

/-- What the leader of a fetch brings along; `ω` is the kind of origin. -/
structure Plan (ω : Type) where
  origin : ω
  after : AfterFetch

/-- The work of a background job. -/
inductive Work where
  | writeBack (storeKey : String) (value : Value) (ttl : Duration)
  /-- Wait for the fetch that refreshes a stale entry. -/
  | refresh (storeKey : String) (fetch : Nat)
  deriving Repr

/-- How the log names the work. -/
def Work.description : Work → String
  | writeBack storeKey _ _ => "write-back of " ++ storeKey
  | refresh storeKey _ => "refresh of " ++ storeKey

/-- What a caller can ask for. -/
inductive Request (ω : Type) where
  | lookup (policy : Policy) (key : String) (origin : ω)
  | set (policy : Policy) (key payload : String)
  | remove (key : String)
  /-- Wait until no background work is pending. -/
  | drain

/-- What a caller gets. -/
inductive Answer where
  /-- A payload, and whether it came out of the store. -/
  | found (payload : String) (hit : Bool)
  | done
  deriving DecidableEq, Repr

/-- How far a caller has come. -/
inductive Caller.Stage where
  /-- Waits for the store to be read. -/
  | reading
  /-- Waits for a fetch. -/
  | waiting (flight : Flight)
  /-- Has its payload, and waits for its own write of it. -/
  | saving (save : Nat) (payload : String)
  /-- Waits for the store to be written, on a `set`. -/
  | writing
  /-- Waits for the store to delete. -/
  | deleting
  /-- Waits with the pool until nothing is pending. -/
  | draining (waiter : Nat)
  | answered (result : Outcome Answer)
  /-- Stopped waiting. -/
  | gone

/-- One call and how far it has come. -/
structure Caller (ω : Type) where
  request : Request ω
  stage : Caller.Stage

/-- How far a save has come. -/
inductive Save.Stage where
  | queued
  | writing
  | ended (result : Except Error Unit)

/-- A write on behalf of a caller that joined somebody else's fetch. -/
structure Save where
  storeKey : String
  value : Value
  ttl : Duration
  stage : Save.Stage

/-- Whoever can be woken, and on whose behalf the store is written. -/
inductive Task where
  | caller (id : Nat)
  | fetch (id : Nat)
  | job (id : Nat)
  | save (id : Nat)
  deriving DecidableEq, Repr

/-- What a proxy says is to be done. -/
inductive Effect (ω : Type) where
  /-- The task has something to do and is to be resumed. -/
  | wake (task : Task)
  /-- Ask the origin for the key, for this fetch. -/
  | ask (fetch : Nat) (key : String) (origin : ω)
  /-- Read the store for this caller. -/
  | read (caller : Nat) (storeKey : String)
  /-- Write the store for this task. -/
  | write (task : Task) (storeKey : String) (value : Value) (ttl : Duration)
  /-- Delete from the store for this caller. -/
  | delete (caller : Nat) (storeKey : String)
  /-- Tell this caller when the limit has passed. -/
  | limit (caller : Nat) (limit : Duration)
  | log (line : LogLine)

/-- What can happen to a proxy. -/
inductive Event (ω : Type) where
  /-- A new caller asks. -/
  | request (r : Request ω)
  /-- A task that was woken takes its turn. -/
  | resume (task : Task)
  | originAnswered (fetch : Nat) (r : Outcome Fetched)
  | readAnswered (caller : Nat) (r : Outcome (Option Value))
  | writeAnswered (task : Task) (r : Outcome Unit)
  | deleteAnswered (caller : Nat) (r : Outcome Unit)
  /-- The caller has waited as long as its policy allows. -/
  | limitPassed (caller : Nat)
  /-- The limit of the caller cannot be set, and setting it crashes. -/
  | limitCrashed (caller : Nat) (text : String)
  /-- The caller stops waiting. -/
  | abandoned (caller : Nat)

/-- The state of a proxy. Callers, fetches, jobs and saves are numbered in the order in which
they came. -/
structure Proxy (ω : Type) where
  keys : KeyScheme
  fetches : Coalescer (Plan ω)
  pool : Pool Work
  callers : List (Caller ω)
  saves : List Save

namespace Proxy

variable {ω : Type}

/-- A proxy over an empty pool that nobody has called yet. -/
def ofPool (keys : KeyScheme) (pool : Pool Work) : Proxy ω := ⟨keys, .empty, pool, [], []⟩

/-- Background jobs and guarded fetches that are not over, counted. -/
def pending (p : Proxy ω) : Nat := p.pool.pending

/-- Keys with a fetch under way, counted. -/
def underWay (p : Proxy ω) : Nat := p.fetches.underWay

/-- How far a caller has come. -/
def stage? (p : Proxy ω) (caller : Nat) : Option Caller.Stage :=
  (p.callers[caller]?).map Caller.stage

/-- What a caller got, once it got something. -/
def result? (p : Proxy ω) (caller : Nat) : Option (Outcome Answer) :=
  match p.stage? caller with
  | some (.answered r) => some r
  | _ => none

end Proxy

end ReadThrough
