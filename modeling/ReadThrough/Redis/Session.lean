import ReadThrough.Redis.Client
import ReadThrough.Simulation.Response
import ReadThrough.Store.Values

/-!
# A session with a Redis client

One client and one server, which may be out of reach. Commands go to the client as bytes, or as
values through a store of values on top of it; each reports its answer, what the server was sent
for it, and the client's connections.
-/

set_option autoImplicit false

namespace ReadThrough.Redis

open ReadThrough.Simulation (Response)

/-- What one line of the script does. -/
inductive Action where
  | get (key : String)
  | set (key : String) (bytes : List UInt8) (ttl : Option Duration)
  | delete (key : String)
  | health
  | storeGet (key : String)
  | storeSet (key : String) (value : Value) (ttl : Duration)
  | storeDelete (key : String)
  | storeHealth

/-- What is reported of an action. -/
structure Report where
  response : Response
  sent : List Command
  connections : Nat × Nat

namespace Link

/-- Carries out one action. -/
def act (l : Link) : Action → Response × Link
  | .get key =>
    let (r, l) := l.get key
    (.ofOutcome .bytes r, l)
  | .set key bytes ttl =>
    let (r, l) := l.set key ttl bytes
    (.ofOutcome (fun _ => .done) r, l)
  | .delete key =>
    let (r, l) := l.delete key
    (.ofOutcome (fun _ => .done) r, l)
  | .health | .storeHealth =>
    let (r, l) := l.health
    (.ofOutcome .flag r, l)
  | .storeGet key =>
    let (r, l) := readValueBy (get key) key l
    (.ofOutcome .value r.outcome, l)
  | .storeSet key v ttl =>
    let (r, l) := writeValueBy (set key (some ttl)) key v l
    (.ofOutcome (fun _ => .done) r.outcome, l)
  | .storeDelete key =>
    let (r, l) := deleteValueBy (delete key) key l
    (.ofOutcome (fun _ => .done) r, l)

/-- Carries out one action, to which the server may give an answer of its own. -/
def step (l : Link) (a : Action) (scripted : Option Answer) : Report × Link :=
  let (r, l) := { l with sent := [], scripted := scripted }.act a
  (⟨r, l.sent, l.client.connections⟩, l)

/-- Runs a script. -/
def script (l : Link) : List (Action × Option Answer) → List Report
  | [] => []
  | (a, scripted) :: rest =>
    let (report, l) := l.step a scripted
    report :: l.script rest

end Link

/-- Runs a script against a fresh server on a stopped clock. -/
def session (c : Config) (reachable : Bool) (actions : List (Action × Option Answer)) :
    Except Error (List Report) :=
  (Client.ofConfig c).map fun client =>
    (Link.mk client .empty reachable 0 [] none).script actions

end ReadThrough.Redis
