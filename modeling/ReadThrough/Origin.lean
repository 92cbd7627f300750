import ReadThrough.Error
import ReadThrough.Store.Table
import ReadThrough.Value

/-!
# Origins

The origin is the slow source behind the cache. `OriginTable` is an origin kept in memory: an
answer per key, and a failure per key that hides the answer until it is taken back. A key that
it has never heard of is answered with nothing rather than refused.

A `Source` says which origin a caller brings along and how long it takes. Callers share the
table, or bring a function of their own that makes an answer out of the key or crashes.
-/

set_option autoImplicit false

namespace ReadThrough

/-- An origin kept in memory. -/
structure OriginTable where
  answers : Table String Fetched
  failures : Table String String
  /-- How many fetches have begun. -/
  calls : Nat
  deriving Repr

namespace OriginTable

/-- Knows of nothing and has not been asked. -/
def empty : OriginTable := ⟨.empty, .empty, 0⟩

instance : Inhabited OriginTable := ⟨empty⟩

def insert (o : OriginTable) (key : String) (f : Fetched) : OriginTable :=
  { o with answers := o.answers.insert key f }

/-- Fetches of the key fail with `text` from now on. -/
def fail (o : OriginTable) (key text : String) : OriginTable :=
  { o with failures := o.failures.insert key text }

/-- Fetches of the key no longer fail. -/
def recover (o : OriginTable) (key : String) : OriginTable :=
  { o with failures := o.failures.erase key }

/-- One more fetch has begun. -/
def count (o : OriginTable) : OriginTable := { o with calls := o.calls + 1 }

/-- What a fetch of the key brings at this moment. -/
def answer (o : OriginTable) (key : String) : Outcome Fetched :=
  match o.failures.get? key with
  | some text => .failed (.origin text)
  | none => .ok ((o.answers.get? key).getD .nothing)

end OriginTable

/-- The origin that a caller brings along. -/
inductive Source where
  /-- The shared table, which takes `latency` milliseconds. -/
  | shared (latency : Nat)
  /-- An answer made of `front` and the key, after `latency` milliseconds. -/
  | composed (front : String) (latency : Nat)
  /-- A crash after `latency` milliseconds. -/
  | crashing (text : String) (latency : Nat)
  deriving DecidableEq, Repr

namespace Source

/-- How long a fetch takes, in milliseconds. -/
def latency : Source → Nat
  | shared n | composed _ n | crashing _ n => n

/-- The table as it stands once a fetch has begun: only the shared one counts. -/
def begin : Source → OriginTable → OriginTable
  | shared _, o => o.count
  | _, o => o

/-- What the fetch of a key brings when its time has passed. -/
def answer (o : OriginTable) (key : String) : Source → Outcome Fetched
  | shared _ => o.answer key
  | composed front _ => .ok (.steady (front ++ key))
  | crashing text _ => .crashed text

end Source

end ReadThrough
