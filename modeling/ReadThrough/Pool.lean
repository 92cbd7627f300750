import ReadThrough.Error

/-!
# A bounded pool of background jobs

Jobs given to the pool run behind their callers, at most `limit` at once. A job first asks for a
permit; permits go to those who ask in the order in which they ask, and a job that ends hands
its permit straight to the next in the queue. How a job ends makes no difference here: one that
fails or crashes gives back what it holds like one that succeeds.

The pool counts pending work: jobs that have not ended, and guards for work that goes on
elsewhere and will end up here. Whoever drains the pool waits until the count is zero. A waiter
registers before it looks at the count and looks again each time it is woken, since new work may
have come in between; every fall to zero wakes all waiters that are parked.

Every operation returns whom it has woken, in the order of waking. The pool never looks at what
a job does (`β`).
-/

set_option autoImplicit false

namespace ReadThrough

/-- How far a job has come. -/
inductive Job.Stage where
  /-- Not begun. -/
  | spawned
  /-- In the queue for a permit. -/
  | queued
  /-- Has been handed a permit and has not run since. -/
  | granted
  | running
  | ended
  deriving DecidableEq, Repr

/-- One job and how far it has come. -/
structure Job (β : Type) where
  work : β
  stage : Job.Stage
  deriving Repr

/-- Somebody who waits until nothing is pending. -/
inductive Waiter where
  | parked
  /-- Told that the count was zero, and has not looked since. -/
  | woken
  | returned
  /-- Stopped waiting. -/
  | gone
  deriving DecidableEq, Repr

/-- Whom an operation has woken. -/
inductive Wake where
  | job (id : Nat)
  | waiter (id : Nat)
  deriving DecidableEq, Repr

/-- Jobs and waiters are numbered in the order in which they came. -/
structure Pool (β : Type) where
  /-- How many jobs may run at once. -/
  limit : Nat
  /-- Permits that nobody holds. -/
  free : Nat
  /-- Jobs that wait for a permit, the first to ask in front. -/
  queue : List Nat
  jobs : List (Job β)
  /-- Guards that have been handed out and not given back. -/
  guards : List Nat
  nextGuard : Nat
  /-- Jobs and guards that are not over, counted. -/
  pending : Nat
  waiters : List Waiter
  deriving Repr

namespace Pool

variable {β : Type}

/-- An empty pool that runs at least one job at a time. -/
def ofLimit (limit : Nat) : Pool β :=
  ⟨max 1 limit, max 1 limit, [], [], [], 0, 0, []⟩

instance : Inhabited (Pool β) := ⟨ofLimit 1⟩

/-- The most permits that can be counted: 61 bits. -/
def maxPermits : Nat := 2305843009213693951

/-- An empty pool, if its permits can be counted. -/
def create (limit : Nat) : Outcome (Pool β) :=
  if limit ≤ maxPermits then .ok (ofLimit limit)
  else
    .crashed ("a semaphore may not have more than MAX_PERMITS permits (" ++
      toString maxPermits ++ ")")

/-! ## Counting -/

/-- The numbers of the waiters that are parked. -/
def parked (p : Pool β) : List Nat :=
  (List.range p.waiters.length).filter fun w => p.waiters[w]? == some .parked

/-- One unit of pending work is over. A fall to zero wakes every parked waiter. -/
def lower (p : Pool β) : Pool β × List Wake :=
  if p.pending = 1 then
    ({ p with
        pending := 0
        waiters := p.waiters.map fun w => if w = .parked then .woken else w },
      p.parked.map .waiter)
  else ({ p with pending := p.pending - 1 }, [])

/-- Counts work that goes on elsewhere until the guard is given back. -/
def track (p : Pool β) : Pool β × Nat :=
  ({ p with
      pending := p.pending + 1
      guards := p.nextGuard :: p.guards
      nextGuard := p.nextGuard + 1 },
    p.nextGuard)

/-- Gives a guard back. One that is not out makes no difference. -/
def giveBack (p : Pool β) (guard : Nat) : Pool β × List Wake :=
  if guard ∈ p.guards then { p with guards := p.guards.erase guard }.lower else (p, [])

/-! ## Jobs -/

/-- How far a job has come. -/
def stage? (p : Pool β) (id : Nat) : Option Job.Stage := (p.jobs[id]?).map Job.stage

/-- Moves a job on to another stage. -/
def setStage (p : Pool β) (id : Nat) (s : Job.Stage) : Pool β :=
  { p with jobs := p.jobs.modify id fun j => { j with stage := s } }

/-- Takes a job in; it is pending from now on. -/
def spawn (p : Pool β) (work : β) : Pool β × List Wake :=
  ({ p with
      pending := p.pending + 1
      jobs := p.jobs ++ [⟨work, .spawned⟩] },
    [.job p.jobs.length])

/-- A job takes its turn. The answer says whether its work starts now: a new job starts if a
permit is free and queues otherwise, and a job that was handed a permit starts. -/
def resume? (p : Pool β) (id : Nat) : Option (Bool × Pool β) :=
  match p.stage? id with
  | some .spawned =>
    if 0 < p.free then some (true, { p.setStage id .running with free := p.free - 1 })
    else some (false, { p.setStage id .queued with queue := p.queue ++ [id] })
  | some .granted => some (true, p.setStage id .running)
  | _ => none

/-- A permit comes back and goes to the first in the queue. -/
def handOn (p : Pool β) : Pool β × List Wake :=
  match p.queue with
  | [] => ({ p with free := p.free + 1 }, [])
  | next :: rest => ({ p.setStage next .granted with queue := rest }, [.job next])

/-- The work of a running job is over, however it went. -/
def finish? (p : Pool β) (id : Nat) : Option (Pool β × List Wake) :=
  match p.stage? id with
  | some .running =>
    let (p, handed) := (p.setStage id .ended).handOn
    let (p, idle) := p.lower
    some (p, handed ++ idle)
  | _ => none

/-! ## Waiting until nothing is pending -/

/-- A new waiter, which is done at once if nothing is pending. -/
def wait (p : Pool β) : Pool β × Nat :=
  ({ p with waiters := p.waiters ++ [if p.pending = 0 then .returned else .parked] },
    p.waiters.length)

/-- A woken waiter looks again: it is done if nothing is pending, and parked otherwise. -/
def look? (p : Pool β) (id : Nat) : Option (Pool β) :=
  match p.waiters[id]? with
  | some .woken =>
    some { p with waiters := p.waiters.set id (if p.pending = 0 then .returned else .parked) }
  | _ => none

/-- A waiter stops waiting. -/
def leave (p : Pool β) (id : Nat) : Pool β := { p with waiters := p.waiters.set id .gone }

/-- Whether the waiter has returned. -/
def hasReturned (p : Pool β) (id : Nat) : Bool := p.waiters[id]? == some .returned

end Pool

end ReadThrough
