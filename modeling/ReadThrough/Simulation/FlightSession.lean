import ReadThrough.Coalescer
import ReadThrough.Origin
import ReadThrough.Simulation.Response
import ReadThrough.Simulation.Timeline

/-!
# A session with a coalescer

One coalescer and one origin in memory. The script asks for keys, keeps its part in each fetch
under a name, and waits for some of them, itself or through waiters of their own. The plan that
a leader brings along is a step that takes some time and may fail.
-/

set_option autoImplicit false

namespace ReadThrough.Simulation

/-- What the leader of a fetch brings along: an origin, and a step after it. -/
structure FlightPlan where
  source : Source
  afterMs : Nat
  /-- The step fails with this text. -/
  afterFails : Option String
  deriving Repr

/-- Something that will happen to a fetch. -/
inductive FlightItem where
  | begin (fetch : Nat)
  | answer (fetch : Nat) (key : String) (source : Source)
  /-- The step after the fetch is over. -/
  | stored (fetch : Nat) (fails : Option String)
  deriving Repr

/-- A coalescer, its origin, and how often a step after a fetch has begun. -/
structure FlightWorld where
  timeline : Timeline FlightItem
  origin : OriginTable
  coalescer : Coalescer FlightPlan
  runs : Nat

namespace FlightWorld

/-- Nothing has been fetched. -/
def empty : FlightWorld := ⟨.empty, .empty, .empty, 0⟩

/-- The origin has answered; if with a value, the leader's step begins. -/
def answered (w : FlightWorld) (fetch : Nat) (r : Outcome Fetched) : FlightWorld :=
  match w.coalescer.receive? fetch r with
  | none => w
  | some (f, coalescer) =>
    let w := { w with coalescer := coalescer }
    match r with
    | .ok _ =>
      { w with
        runs := w.runs + 1
        timeline := w.timeline.after f.plan.afterMs (.stored fetch f.plan.afterFails) }
    | _ => w

/-- One thing happens. -/
def take (w : FlightWorld) : FlightItem → FlightWorld
  | .begin fetch =>
    match w.coalescer.ask? fetch with
    | none => w
    | some (f, coalescer) =>
      { w with
        coalescer := coalescer
        origin := f.plan.source.begin w.origin
        timeline := w.timeline.after f.plan.source.latency (.answer fetch f.key f.plan.source) }
  | .answer fetch key source => w.answered fetch (source.answer w.origin key)
  | .stored fetch fails =>
    let r := match fails with
      | some text => .failed (.backend text)
      | none => .ok ()
    match w.coalescer.conclude? fetch r with
    | some coalescer => { w with coalescer := coalescer }
    | none => w

/-- It runs by its timeline. -/
def clockwork : Clockwork FlightWorld FlightItem where
  timeline := FlightWorld.timeline
  setTimeline w t := { w with timeline := t }
  take := FlightWorld.take

/-- A bound on what can still happen: three things for each fetch. -/
def moves (w : FlightWorld) : Nat := w.timeline.entries.length + 3 * w.coalescer.fetches.length

def settle (w : FlightWorld) : FlightWorld := clockwork.settle w.moves w

def sleep (w : FlightWorld) (ms : Nat) : FlightWorld := clockwork.sleep w.moves ms w

/-- Waits until a fetch is over. -/
def await (w : FlightWorld) (fetch : Nat) : FlightWorld :=
  clockwork.await w.moves (fun w => (w.coalescer.result? fetch).isSome) w

/-- Asks for a key. -/
def fetch (w : FlightWorld) (key : String) (plan : FlightPlan) : FlightWorld × Flight :=
  let (coalescer, flight) := w.coalescer.join key plan
  let timeline := if flight.leader then w.timeline.soon (.begin flight.fetch) else w.timeline
  ({ w with coalescer := coalescer, timeline := timeline }, flight)

/-- What whoever waits for a fetch gets. -/
def responseOf (w : FlightWorld) (fetch : Nat) : Response :=
  ((w.coalescer.result? fetch).map (.ofExcept .fetched)).getD .unknown

end FlightWorld

/-- One line of the script. -/
inductive FlightCommand where
  | fetch (name key : String) (plan : FlightPlan)
  | await (name : String)
  /-- Hand the part in the fetch to a waiter of its own, under the same name. -/
  | start (name : String)
  | drop (name : String)
  | isFinished (name : String)
  | join (name : String)
  | abort (name : String)
  | isUnderWay (key : String)
  | sleep (ms : Nat)
  | insert (key : String) (answer : Fetched)
  | fail (key text : String)
  | recover (key : String)

/-- What is reported of a command. -/
structure FlightReport where
  response : Response
  clock : Nat
  underWay : Nat
  originCalls : Nat
  runs : Nat

/-- The fetch that each name has a part in, and the fetch that the waiter of each name waits
for. A name may stand for a part and for a waiter at the same time. -/
structure FlightSession where
  world : FlightWorld
  flights : Table String Nat
  waiters : Table String Nat

namespace FlightSession

def empty : FlightSession := ⟨.empty, .empty, .empty⟩

/-- Does something about a fetch, if there is one. -/
def withFetch (s : FlightSession) (fetch : Option Nat)
    (f : Nat → Response × FlightSession) : Response × FlightSession :=
  match fetch with
  | some fetch => f fetch
  | none => (.unknown, s)

def origin (s : FlightSession) (f : OriginTable → OriginTable) : Response × FlightSession :=
  (.done, { s with world := { s.world with origin := f s.world.origin } })

/-- Waits for a fetch and answers with its result. -/
def awaited (s : FlightSession) (fetch : Nat) : Response × FlightSession :=
  let w := s.world.await fetch
  (w.responseOf fetch, { s with world := w })

/-- Runs one command. -/
def run (s : FlightSession) : FlightCommand → Response × FlightSession
  | .fetch name key plan =>
    let (w, flight) := s.world.fetch key plan
    (.leads flight.leader,
      { s with world := w.settle, flights := s.flights.insert name flight.fetch })
  | .await name => s.withFetch (s.flights.get? name) s.awaited
  | .start name =>
    s.withFetch (s.flights.get? name) fun fetch =>
      (.started,
        { s with flights := s.flights.erase name, waiters := s.waiters.insert name fetch })
  | .drop name => (.dropped, { s with flights := s.flights.erase name })
  | .isFinished name =>
    s.withFetch (s.waiters.get? name) fun fetch =>
      (.finished (s.world.coalescer.result? fetch).isSome, s)
  | .join name => s.withFetch (s.waiters.get? name) s.awaited
  | .abort name =>
    s.withFetch (s.waiters.get? name) fun fetch =>
      match s.world.coalescer.result? fetch with
      | some r => (.ofExcept .fetched r, s)
      | none => (.aborted, s)
  | .isUnderWay key => (.flag (s.world.coalescer.isUnderWay key), s)
  | .sleep ms => (.slept, { s with world := s.world.sleep ms })
  | .insert key answer => s.origin (·.insert key answer)
  | .fail key text => s.origin (·.fail key text)
  | .recover key => s.origin (·.recover key)

/-- Runs one command and reports on it. -/
def step (s : FlightSession) (c : FlightCommand) : FlightReport × FlightSession :=
  let (r, s) := s.run c
  (⟨r, s.world.timeline.clock, s.world.coalescer.underWay, s.world.origin.calls, s.world.runs⟩,
    s)

/-- Runs a script. -/
def script (s : FlightSession) : List FlightCommand → List FlightReport
  | [] => []
  | c :: rest =>
    let (report, s) := s.step c
    report :: s.script rest

end FlightSession

end ReadThrough.Simulation
