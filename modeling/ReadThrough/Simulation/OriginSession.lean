import ReadThrough.Origin
import ReadThrough.Simulation.Response

/-!
# A session with an origin

One origin in memory, asked directly: a fetch takes its time, and its answer is what the origin
holds when that time has passed. A crash reaches the script.
-/

set_option autoImplicit false

namespace ReadThrough.Simulation

/-- One line of the script. -/
inductive OriginCommand where
  | fetch (key : String) (source : Source)
  | sleep (ms : Nat)
  | insert (key : String) (answer : Fetched)
  | fail (key text : String)
  | recover (key : String)

/-- What is reported of a command. -/
structure OriginReport where
  response : Response
  clock : Nat
  calls : Nat

/-- A clock in milliseconds and an origin. -/
structure OriginSession where
  clock : Nat
  origin : OriginTable

namespace OriginSession

def empty : OriginSession := ⟨0, .empty⟩

/-- Runs one command. -/
def run (s : OriginSession) : OriginCommand → Response × OriginSession
  | .fetch key source =>
    let origin := source.begin s.origin
    (.ofOutcome .fetched (source.answer origin key), ⟨s.clock + source.latency, origin⟩)
  | .sleep ms => (.slept, { s with clock := s.clock + ms })
  | .insert key answer => (.done, { s with origin := s.origin.insert key answer })
  | .fail key text => (.done, { s with origin := s.origin.fail key text })
  | .recover key => (.done, { s with origin := s.origin.recover key })

/-- Runs a script. -/
def script (s : OriginSession) : List OriginCommand → List OriginReport
  | [] => []
  | c :: rest =>
    let (r, s) := s.run c
    ⟨r, s.clock, s.origin.calls⟩ :: s.script rest

end OriginSession

end ReadThrough.Simulation
