import ReadThrough.Log
import ReadThrough.Pool
import ReadThrough.Simulation.Response
import ReadThrough.Simulation.Timeline
import ReadThrough.Store.Table

/-!
# A session with a pool

One pool of background jobs. Each job marks its start, takes some time, marks its end, may hand
the pool a job to follow it, and then succeeds, fails or crashes. The script gives the pool
jobs, keeps guards under names, and waits until nothing is pending, itself or through waiters of
their own.
-/

set_option autoImplicit false

namespace ReadThrough.Simulation

/-- What a job does. -/
structure Body where
  name : String
  ms : Nat
  description : String
  ending : Outcome Unit
  /-- The name of the job that follows, and the time it takes. -/
  next : Option (String × Nat)

/-- A mark that a job has left. -/
structure Mark where
  ends : Bool
  name : String
  clock : Nat
  deriving DecidableEq, Repr

/-- Something that will happen. -/
inductive PoolItem where
  | resume (job : Nat)
  /-- The time of a job has passed. -/
  | over (job : Nat)
  | look (waiter : Nat)
  deriving DecidableEq, Repr

/-- A pool, the marks and lines since the last report, and when each waiter was done. -/
structure PoolWorld where
  timeline : Timeline PoolItem
  pool : Pool Body
  marks : List Mark
  log : List LogLine
  returned : Table Nat Nat

namespace PoolWorld

def ofPool (pool : Pool Body) : PoolWorld := ⟨.empty, pool, [], [], .empty⟩

/-- Whom the pool has woken will act. -/
def wake (w : PoolWorld) (wakes : List Wake) : PoolWorld :=
  { w with
    timeline := wakes.foldl (fun t x => t.soon (match x with
      | .job j => .resume j
      | .waiter i => .look i)) w.timeline }

def spawn (w : PoolWorld) (b : Body) : PoolWorld :=
  let (pool, wakes) := w.pool.spawn b
  { w with pool := pool }.wake wakes

/-- Notes the clock at which a waiter was done. -/
def noteReturn (w : PoolWorld) (waiter : Nat) : PoolWorld :=
  if w.pool.hasReturned waiter then
    { w with returned := w.returned.insert waiter w.timeline.clock }
  else w

/-- The line that a job leaves in the log. -/
def logOf (b : Body) : List LogLine :=
  match b.ending with
  | .failed e => [.err ("Background " ++ b.description ++ " failed: " ++ e.message)]
  | _ => []

/-- One thing happens. -/
def take (w : PoolWorld) : PoolItem → PoolWorld
  | .resume job =>
    match w.pool.resume? job, w.pool.jobs[job]? with
    | some (true, pool), some j =>
      { w with
        pool := pool
        marks := w.marks ++ [Mark.mk false j.work.name w.timeline.clock]
        timeline := w.timeline.after j.work.ms (.over job) }
    | some (false, pool), _ => { w with pool := pool }
    | _, _ => w
  | .over job =>
    match w.pool.jobs[job]? with
    | some j =>
      let w := { w with marks := w.marks ++ [Mark.mk true j.work.name w.timeline.clock] }
      let w := match j.work.next with
        | some (name, ms) => w.spawn ⟨name, ms, "child", .ok (), none⟩
        | none => w
      match w.pool.finish? job with
      | some (pool, wakes) =>
        { w with pool := pool, log := w.log ++ logOf j.work }.wake wakes
      | none => w
    | none => w
  | .look waiter =>
    match w.pool.look? waiter with
    | some pool => { w with pool := pool }.noteReturn waiter
    | none => w

/-- It runs by its timeline. -/
def clockwork : Clockwork PoolWorld PoolItem where
  timeline := PoolWorld.timeline
  setTimeline w t := { w with timeline := t }
  take := PoolWorld.take

/-- A bound on what can still happen: a job acts at most three times, once more for the job that
follows it, and its end may wake every waiter. -/
def moves (w : PoolWorld) : Nat :=
  (w.timeline.entries.length + 8 * w.pool.jobs.length + 8) * (w.pool.waiters.length + 2)

def settle (w : PoolWorld) : PoolWorld := clockwork.settle w.moves w

def sleep (w : PoolWorld) (ms : Nat) : PoolWorld := clockwork.sleep w.moves ms w

/-- Waits until a waiter is done. -/
def await (w : PoolWorld) (waiter : Nat) : PoolWorld :=
  clockwork.await w.moves (fun w => w.pool.hasReturned waiter) w

/-- A new waiter. -/
def wait (w : PoolWorld) : PoolWorld × Nat :=
  let (pool, waiter) := w.pool.wait
  ({ w with pool := pool }.noteReturn waiter, waiter)

/-- What a waiter of its own answers when it is done. -/
def responseOf (w : PoolWorld) (waiter : Nat) : Response :=
  ((w.returned.get? waiter).map .idleAt).getD .unknown

end PoolWorld

/-- One line of the script. -/
inductive PoolCommand where
  | spawn (body : Body)
  | track (name : String)
  | release (name : String)
  | drain
  /-- Let a waiter of its own wait until nothing is pending. -/
  | start (name : String)
  | isFinished (name : String)
  | join (name : String)
  | abort (name : String)
  | sleep (ms : Nat)

/-- What is reported of a command. -/
structure PoolReport where
  response : Response
  clock : Nat
  pending : Nat
  marks : List Mark
  log : List LogLine

/-- The guards and the waiters that the script has named. -/
structure PoolSession where
  world : PoolWorld
  guards : Table String Nat
  waiters : Table String Nat

namespace PoolSession

/-- A session with a pool that runs so many jobs at once. -/
def ofLimit (limit : Nat) : Outcome PoolSession :=
  (Pool.create limit).map fun pool => ⟨.ofPool pool, .empty, .empty⟩

/-- Gives a guard back. -/
def giveBack (w : PoolWorld) (guard : Option Nat) : PoolWorld :=
  match guard with
  | some g =>
    let (pool, wakes) := w.pool.giveBack g
    { w with pool := pool }.wake wakes
  | none => w

/-- Runs one command. A name that gets a second guard gives its first one back. -/
def run (s : PoolSession) : PoolCommand → Response × PoolSession
  | .spawn body => (.spawned, { s with world := (s.world.spawn body).settle })
  | .track name =>
    let (pool, guard) := s.world.pool.track
    let w := giveBack { s.world with pool := pool } (s.guards.get? name)
    (.tracked, { s with world := w.settle, guards := s.guards.insert name guard })
  | .release name =>
    let w := giveBack s.world (s.guards.get? name)
    (.released, { s with world := w.settle, guards := s.guards.erase name })
  | .drain =>
    let (w, waiter) := s.world.wait
    (.idle, { s with world := w.await waiter })
  | .start name =>
    let (w, waiter) := s.world.wait
    (.started, { s with world := w.settle, waiters := s.waiters.insert name waiter })
  | .isFinished name =>
    match s.waiters.get? name with
    | some waiter => (.finished (s.world.pool.hasReturned waiter), s)
    | none => (.unknown, s)
  | .join name =>
    match s.waiters.get? name with
    | some waiter =>
      let w := s.world.await waiter
      (w.responseOf waiter, { s with world := w })
    | none => (.unknown, s)
  | .abort name =>
    match s.waiters.get? name with
    | some waiter =>
      if s.world.pool.hasReturned waiter then (s.world.responseOf waiter, s)
      else (.aborted, { s with world := { s.world with pool := s.world.pool.leave waiter } })
    | none => (.unknown, s)
  | .sleep ms => (.slept, { s with world := s.world.sleep ms })

/-- Runs one command and reports on it. -/
def step (s : PoolSession) (c : PoolCommand) : PoolReport × PoolSession :=
  let (r, s) := s.run c
  let w := s.world
  (⟨r, w.timeline.clock, w.pool.pending, w.marks, w.log⟩,
    { s with world := { w with marks := [], log := [] } })

/-- Runs a script. -/
def script (s : PoolSession) : List PoolCommand → List PoolReport
  | [] => []
  | c :: rest =>
    let (report, s) := s.step c
    report :: s.script rest

end PoolSession

end ReadThrough.Simulation
