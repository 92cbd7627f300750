import ReadThrough.Origin
import ReadThrough.Proxy.Step
import ReadThrough.Simulation.Timeline
import ReadThrough.Store.Values

/-!
# Proxies in a small world

A world holds several proxies that share one store of values and one origin in memory, and a
clock. It carries out what the proxies ask for: it reads and writes the store after the time
that takes, asks origins and brings their answers, wakes tasks, and rings when a limit has
passed.

In front of the store stands a counter that can be told to refuse. A call is counted, and its
refusal decided, when it begins; the store itself is touched when its time has passed. So a
reader that leaves in between has been counted but reads nothing.

`World.take` lets one thing on the timeline happen. The world's own run takes them in the order
of the timeline; nothing in `take` depends on that order.
-/

set_option autoImplicit false

namespace ReadThrough.Simulation

/-- How the store behaves: which calls it refuses, and how many milliseconds it takes. -/
structure Knobs where
  failReads : Bool
  failWrites : Bool
  failDeletes : Bool
  failHealth : Bool
  readMs : Nat
  writeMs : Nat
  deriving DecidableEq, Repr

/-- Refuses nothing and takes no time. -/
def Knobs.default : Knobs := ⟨false, false, false, false, 0, 0⟩

/-- A change to some of the knobs; the others stay where they are. -/
structure Knobs.Change where
  failReads : Option Bool
  failWrites : Option Bool
  failDeletes : Option Bool
  failHealth : Option Bool
  readMs : Option Nat
  writeMs : Option Nat
  deriving DecidableEq, Repr

/-- The knobs after a change. -/
def Knobs.turn (k : Knobs) (c : Knobs.Change) : Knobs where
  failReads := c.failReads.getD k.failReads
  failWrites := c.failWrites.getD k.failWrites
  failDeletes := c.failDeletes.getD k.failDeletes
  failHealth := c.failHealth.getD k.failHealth
  readMs := c.readMs.getD k.readMs
  writeMs := c.writeMs.getD k.writeMs

/-- How many calls of the store have begun. -/
structure Counts where
  reads : Nat
  writes : Nat
  deletes : Nat
  deriving DecidableEq, Repr

/-- Something that will happen to the proxy of this number. -/
inductive Item where
  | resume (proxy : Nat) (task : Task)
  | answer (proxy fetch : Nat) (key : String) (source : Source)
  | read (proxy caller : Nat) (key : String) (refused : Bool)
  | write (proxy : Nat) (task : Task) (key : String) (value : Value) (ttl : Duration)
    (refused : Bool)
  | delete (proxy caller : Nat) (key : String) (refused : Bool)
  | limit (proxy caller : Nat)
  /-- The limit cannot be set. -/
  | limitCrash (proxy caller : Nat)
  deriving Repr

/-- Proxies, what they share, and what will happen. -/
structure World where
  timeline : Timeline Item
  /-- The wall clock at the start. -/
  start : Moment
  store : ByteMap
  knobs : Knobs
  counts : Counts
  origin : OriginTable
  proxies : List (Proxy Source)
  log : List LogLine

namespace World

/-- The monotonic clock at the start. -/
def monotonicStart : Moment := .ofSeconds 1000000

/-- A world in which nothing has happened. -/
def ofProxies (start : Moment) (proxies : List (Proxy Source)) : World :=
  ⟨.empty, start, .empty, .default, ⟨0, 0, 0⟩, .empty, proxies, []⟩

/-- The wall clock. -/
def wall (w : World) : Moment := w.start.afterMillis w.timeline.clock

/-- The monotonic clock. -/
def monotonic (w : World) : Moment := monotonicStart.afterMillis w.timeline.clock

/-- A wait whose end lies past the end of the clock lasts thirty years. -/
def farMillis : Nat := 30 * 365 * 86400 * 1000

/-- What is added to a deadline so that the whole milliseconds of the sum come at or after it. -/
def roundingUp : Duration := .ofFraction 999999

/-- After how many milliseconds a limit that is set now is noticed: at the first whole millisecond at
or after the deadline. A deadline so close to the end of the clock that there is none cannot be
set. -/
def ringsAfter? (now : Moment) (limit : Duration) : Option Nat :=
  match now.add? limit with
  | none => some farMillis
  | some deadline => (deadline.add? roundingUp).map fun _ => limit.millisUp

/-- Sets the limit of a caller. -/
def setLimit (w : World) (proxy caller : Nat) (limit : Duration) (t : Timeline Item) :
    Timeline Item :=
  match ringsAfter? w.monotonic limit with
  | some ms => t.after ms (.limit proxy caller)
  | none => t.now (.limitCrash proxy caller)

/-- Puts something on the timeline. -/
def onTimeline (w : World) (f : Timeline Item → Timeline Item) : World :=
  { w with timeline := f w.timeline }

/-- Carries out what a proxy asks for. -/
def carryOut (proxy : Nat) (w : World) : Effect Source → World
  | .wake task => w.onTimeline (·.soon (.resume proxy task))
  | .ask fetch key source =>
    { w with origin := source.begin w.origin }.onTimeline
      (·.after source.latency (.answer proxy fetch key source))
  | .read caller key =>
    { w with counts := { w.counts with reads := w.counts.reads + 1 } }.onTimeline
      (·.after w.knobs.readMs (.read proxy caller key w.knobs.failReads))
  | .write task key v ttl =>
    { w with counts := { w.counts with writes := w.counts.writes + 1 } }.onTimeline
      (·.after w.knobs.writeMs (.write proxy task key v ttl w.knobs.failWrites))
  | .delete caller key =>
    { w with counts := { w.counts with deletes := w.counts.deletes + 1 } }.onTimeline
      (·.now (.delete proxy caller key w.knobs.failDeletes))
  | .limit caller limit => w.onTimeline (w.setLimit proxy caller limit)
  | .log line => { w with log := w.log ++ [line] }

/-- Something happens to a proxy, and what it asks for is carried out. -/
def tell (w : World) (proxy : Nat) (e : Event Source) : World :=
  match (w.proxies[proxy]?).bind (·.step w.wall e) with
  | some (p, effects) =>
    effects.foldl (carryOut proxy) { w with proxies := w.proxies.set proxy p }
  | none => w

/-- How far a caller of a proxy has come. -/
def stage? (w : World) (proxy caller : Nat) : Option Caller.Stage :=
  (w.proxies[proxy]?).bind (·.stage? caller)

/-- What a caller of a proxy got, once it got something. -/
def result? (w : World) (proxy caller : Nat) : Option (Outcome Answer) :=
  (w.proxies[proxy]?).bind (·.result? caller)

/-- What the store says when it refuses. -/
def refusal (what : String) : Error := .backend (what ++ " refused")

/-- The store reads a value. -/
def readValue (w : World) (key : String) : Outcome (Option Value) × World :=
  let (r, store) := w.store.readValue w.monotonic key
  (r.outcome, { w with store := store, log := w.log ++ r.log })

/-- The store writes a value. -/
def writeValue (w : World) (key : String) (v : Value) (ttl : Duration) : Outcome Unit × World :=
  let (r, store) := w.store.writeValue w.monotonic key v ttl
  (r.outcome, { w with store := store, log := w.log ++ r.log })

/-- The store deletes a value. -/
def deleteValue (w : World) (key : String) : Outcome Unit × World :=
  let (r, store) := w.store.deleteValue key
  (r, { w with store := store })

/-- Whether the caller still waits for its read. -/
def isReading (w : World) (proxy caller : Nat) : Bool :=
  match w.stage? proxy caller with
  | some .reading => true
  | _ => false

/-- One thing happens. -/
def take (w : World) : Item → World
  | .resume proxy task => w.tell proxy (.resume task)
  | .answer proxy fetch key source =>
    w.tell proxy (.originAnswered fetch (source.answer w.origin key))
  | .read proxy caller key refused =>
    if !w.isReading proxy caller then w
    else if refused then w.tell proxy (.readAnswered caller (.failed (refusal "read")))
    else
      let (r, w) := w.readValue key
      w.tell proxy (.readAnswered caller r)
  | .write proxy task key v ttl refused =>
    if refused then w.tell proxy (.writeAnswered task (.failed (refusal "write")))
    else
      let (r, w) := w.writeValue key v ttl
      w.tell proxy (.writeAnswered task r)
  | .delete proxy caller key refused =>
    if refused then w.tell proxy (.deleteAnswered caller (.failed (refusal "delete")))
    else
      let (r, w) := w.deleteValue key
      w.tell proxy (.deleteAnswered caller r)
  | .limit proxy caller => w.tell proxy (.limitPassed caller)
  | .limitCrash proxy caller => w.tell proxy (.limitCrashed caller Moment.endCrash)

/-- The world runs by its timeline. -/
def clockwork : Clockwork World Item where
  timeline := World.timeline
  setTimeline w t := { w with timeline := t }
  take := World.take

/-- A bound on what can still happen if nobody calls any more: whoever and whatever there is
acts a bounded number of times, and each fall of a pool to zero wakes its waiters once. -/
def moves (w : World) : Nat :=
  let acting := w.proxies.foldl (fun n p =>
    n + p.callers.length + p.fetches.fetches.length + p.pool.jobs.length + p.saves.length) 0
  let waiting := w.proxies.foldl (fun n p => n + p.pool.waiters.length) 0
  (w.timeline.entries.length + 32 * acting + 32) * (waiting + 2)

/-- Lets everything happen that is due by now. -/
def settle (w : World) : World := clockwork.settle w.moves w

/-- Lets time pass. -/
def sleep (w : World) (ms : Nat) : World := clockwork.sleep w.moves ms w

/-- Waits until a caller of a proxy has its answer. -/
def await (w : World) (proxy caller : Nat) : World :=
  clockwork.await w.moves (fun w => (w.result? proxy caller).isSome) w

end World

end ReadThrough.Simulation
