import ReadThrough.Proxy.Builder
import ReadThrough.Simulation.Response
import ReadThrough.Simulation.World

/-!
# A session with proxies

A session is a script run against a world: one command after another, each of which sees
everything done that could be done by then. A command may wait (time then passes) or leave a
caller waiting under a name, to be asked after later. Other commands go past the proxies, to
the origin, to the store, or to the bytes that the store keeps.

After each command the session reports the answer, a few counts that show what happened in the
world, and what was logged.
-/

set_option autoImplicit false

namespace ReadThrough.Simulation

/-- One line of the script. -/
inductive Command where
  /-- Look a key up and wait; `plain` leaves out whether it was a hit. -/
  | lookup (proxy : Nat) (policy : Policy) (key : String) (plain : Bool) (source : Source)
  /-- The same, by a caller of its own name. -/
  | start (name : String) (proxy : Nat) (policy : Policy) (key : String) (plain : Bool)
    (source : Source)
  | isFinished (name : String)
  | join (name : String)
  | abort (name : String)
  | set (proxy : Nat) (policy : Policy) (key payload : String)
  | remove (proxy : Nat) (key : String)
  | health
  | drain (proxy : Nat)
  | sleep (ms : Nat)
  | turn (change : Knobs.Change)
  | insert (key : String) (answer : Fetched)
  | fail (key text : String)
  | recover (key : String)
  | storeGet (key : String)
  | storeSet (key : String) (value : Moment → Value) (ttl : Duration)
  | storeDelete (key : String)
  | storeHealth
  | bytesGet (key : String)
  | bytesSet (key : String) (bytes : List UInt8) (ttl : Option Duration)
  | bytesDelete (key : String)
  | remaining (key : String)
  | purge
  | isEmpty

/-- What shows of the world after a command. -/
structure Snapshot where
  clock : Nat
  size : Nat
  originCalls : Nat
  counts : Counts
  /-- For each proxy, its pending work and its fetches under way. -/
  proxies : List (Nat × Nat)

/-- What is reported of a command. -/
structure Report where
  response : Response
  snapshot : Snapshot
  log : List LogLine

/-- A caller that goes on while the script does. -/
structure Started where
  proxy : Nat
  caller : Nat
  plain : Bool

/-- A world and the callers that the script has named. -/
structure Session where
  world : World
  started : Table String Started

namespace Response

/-- The answer to a caller. -/
def ofAnswer (plain : Bool) : Answer → Response
  | .found text hit => if plain then payload text else found text hit
  | .done => done

end Response

namespace Snapshot

def ofWorld (w : World) : Snapshot where
  clock := w.timeline.clock
  size := w.store.size
  originCalls := w.origin.calls
  counts := w.counts
  proxies := w.proxies.map fun p => (p.pending, p.underWay)

end Snapshot

namespace Session

/-- A session with proxies of the given settings, if they can all be built. -/
def ofConfigs (start : Moment) (configs : List Config) : Outcome Session :=
  let rec build : List Config → Outcome (List (Proxy Source))
    | [] => .ok []
    | c :: rest =>
      match Proxy.ofConfig c with
      | .ok p => (build rest).map (p :: ·)
      | .failed e => .failed e
      | .crashed t => .crashed t
  (build configs).map fun ps => ⟨World.ofProxies start ps, .empty⟩

/-- The number that a proxy's next caller gets. -/
def nextCaller (s : Session) (proxy : Nat) : Nat :=
  ((s.world.proxies[proxy]?).map fun p => p.callers.length).getD 0

/-- What a caller got. -/
def responseOf (w : World) (proxy caller : Nat) (f : Answer → Response) : Response :=
  ((w.result? proxy caller).map (.ofOutcome f)).getD .unknown

/-- Calls a proxy and waits for the answer. -/
def call (s : Session) (proxy : Nat) (r : Request Source) (f : Answer → Response) :
    Response × Session :=
  let caller := s.nextCaller proxy
  let w := (s.world.tell proxy (.request r)).await proxy caller
  (responseOf w proxy caller f, { s with world := w })

/-- Does something to the world outside the proxies. -/
def outside (s : Session) (r : Response × World) : Response × Session :=
  (r.1, { s with world := r.2 })

/-- Does something to the origin. -/
def origin (s : Session) (f : OriginTable → OriginTable) : Response × Session :=
  (.done, { s with world := { s.world with origin := f s.world.origin } })

/-- Runs one command. -/
def run (s : Session) : Command → Response × Session
  | .lookup proxy policy key plain source =>
    s.call proxy (.lookup policy key source) (.ofAnswer plain)
  | .start name proxy policy key plain source =>
    let caller := s.nextCaller proxy
    let w := (s.world.tell proxy (.request (.lookup policy key source))).settle
    (.started, ⟨w, s.started.insert name ⟨proxy, caller, plain⟩⟩)
  | .isFinished name =>
    match s.started.get? name with
    | some c => (.finished (s.world.result? c.proxy c.caller).isSome, s)
    | none => (.unknown, s)
  | .join name =>
    match s.started.get? name with
    | some c =>
      let w := s.world.await c.proxy c.caller
      (responseOf w c.proxy c.caller (.ofAnswer c.plain), { s with world := w })
    | none => (.unknown, s)
  | .abort name =>
    match s.started.get? name with
    | some c =>
      match s.world.result? c.proxy c.caller with
      | some r => (.ofOutcome (.ofAnswer c.plain) r, s)
      | none =>
        (.aborted, { s with world := (s.world.tell c.proxy (.abandoned c.caller)).settle })
    | none => (.unknown, s)
  | .set proxy policy key payload => s.call proxy (.set policy key payload) (.ofAnswer false)
  | .remove proxy key => s.call proxy (.remove key) (.ofAnswer false)
  | .health =>
    if s.world.knobs.failHealth then (.failed (World.refusal "health"), s) else (.flag true, s)
  | .drain proxy => s.call proxy .drain fun _ => .idle
  | .sleep ms => s.outside (.slept, s.world.sleep ms)
  | .turn change => s.outside (.done, { s.world with knobs := s.world.knobs.turn change })
  | .insert key answer => s.origin (·.insert key answer)
  | .fail key text => s.origin (·.fail key text)
  | .recover key => s.origin (·.recover key)
  | .storeGet key =>
    let (r, w) := s.world.readValue key
    s.outside (.ofOutcome .value r, w)
  | .storeSet key value ttl =>
    let (r, w) := s.world.writeValue key (value s.world.wall) ttl
    s.outside (.ofOutcome (fun _ => .done) r, w)
  | .storeDelete key =>
    let (r, w) := s.world.deleteValue key
    s.outside (.ofOutcome (fun _ => .done) r, w)
  | .storeHealth => (.flag true, s)
  | .bytesGet key =>
    let (bytes, store) := s.world.store.get (.still s.world.monotonic) key
    s.outside (.bytes bytes, { s.world with store := store })
  | .bytesSet key bytes ttl =>
    let (r, store) := ByteMap.write s.world.monotonic key ttl bytes s.world.store
    s.outside (.ofOutcome (fun _ => .done) r, { s.world with store := store })
  | .bytesDelete key =>
    s.outside (.done, { s.world with store := s.world.store.erase key })
  | .remaining key =>
    (.remaining (s.world.store.remaining? (.still s.world.monotonic) key), s)
  | .purge =>
    let (n, store) := s.world.store.purge (.still s.world.monotonic)
    s.outside (.count n, { s.world with store := store })
  | .isEmpty => (.flag (s.world.store.size == 0), s)

/-- Runs one command and reports on it. -/
def step (s : Session) (c : Command) : Report × Session :=
  let (r, s) := s.run c
  (⟨r, .ofWorld s.world, s.world.log⟩, { s with world := { s.world with log := [] } })

/-- Runs a script. -/
def script (s : Session) : List Command → List Report
  | [] => []
  | c :: rest =>
    let (report, s) := s.step c
    report :: s.script rest

end Session

end ReadThrough.Simulation
