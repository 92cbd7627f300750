import ReadThrough.Error
import ReadThrough.Value

/-!
# Answers to the commands of a session

Every session, whatever it plays with, answers its commands in the same words. A crash that
reaches the script itself is an answer too; one that is caught on the way is an error like any
other by then.
-/

set_option autoImplicit false

namespace ReadThrough.Simulation

/-- What a command answers. -/
inductive Response where
  | done
  | slept
  | idle
  /-- Nothing was pending at this reading of the clock. -/
  | idleAt (clock : Nat)
  | started
  | spawned
  | tracked
  | released
  | dropped
  | aborted
  | finished (b : Bool)
  /-- The caller of a fetch started it. -/
  | leads (b : Bool)
  | flag (b : Bool)
  | count (n : Nat)
  /-- A payload, and whether it came out of the store. -/
  | found (payload : String) (hit : Bool)
  | fetched (a : Fetched)
  | payload (text : String)
  | value (v : Option Value)
  | bytes (bytes : Option (List UInt8))
  | remaining (d : Option Duration)
  | failed (e : Error)
  | crashed (text : String)
  /-- The command names something that is not there. -/
  | unknown

namespace Response

/-- The ending of a call, with a word for the answer. -/
def ofOutcome {α : Type} (f : α → Response) : Outcome α → Response
  | .ok a => f a
  | .failed e => failed e
  | .crashed t => crashed t

/-- The result of a call, with a word for the answer. -/
def ofExcept {α : Type} (f : α → Response) : Except Error α → Response
  | .ok a => f a
  | .error e => failed e

end Response

end ReadThrough.Simulation
