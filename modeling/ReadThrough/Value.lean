import ReadThrough.Time.Moment

/-!
# Stored values and fetched answers

A `Value` is one entry as the store keeps it. It is never changed in place: every write puts a
whole new value under the key. Its age is judged from `createdAt` alone, against an offset that
the reader brings along, so one entry can be stale for one reader and fresh for another.

A `Fetched` is what the origin answers. It becomes a value when it is stamped with the time of
the write.
-/

set_option autoImplicit false

namespace ReadThrough

/-- One entry of the store. -/
structure Value where
  /-- The time of the write; none for a value that was never written. -/
  createdAt : Option Moment
  /-- The origin marked the answer as one that changes quickly. -/
  volatile : Bool
  /-- The value stands for a missing entry. -/
  absent : Bool
  /-- The content, empty where the origin knows of nothing. -/
  payload : String
  deriving DecidableEq, Repr

/-- A successful answer of the origin. -/
structure Fetched where
  payload : String
  volatile : Bool
  deriving DecidableEq, Repr

namespace Value

/-- A value that holds a payload, written at `now`. -/
def stamped (now : Moment) (payload : String) (volatile : Bool) : Value :=
  ⟨some now, volatile, false, payload⟩

/-- The value that stands for a missing entry. -/
def missing : Value := ⟨none, false, true, ""⟩

instance : Inhabited Value := ⟨missing⟩

/-- The offset that applies: a volatile value is judged by the fast one. -/
def offset (v : Value) (normal fast : Duration) : Duration :=
  if v.volatile then fast else normal

/-- Older than the offset that applies. A value that was never written is not old, and one whose
offset leads past the end of the clock never will be. -/
def isStale (v : Value) (normal fast : Duration) (now : Moment) : Bool :=
  match v.createdAt.bind (·.add? (v.offset normal fast)) with
  | some limit => limit < now
  | none => false

/-- Nothing is known under the key. -/
def isEmpty (v : Value) : Bool := v.payload.isEmpty

/-- The length of the payload in bytes. -/
def size (v : Value) : Nat := v.payload.utf8ByteSize

end Value

namespace Fetched

/-- An ordinary answer. -/
def steady (payload : String) : Fetched := ⟨payload, false⟩

/-- The answer that the origin knows of nothing. -/
def nothing : Fetched := steady ""

instance : Inhabited Fetched := ⟨nothing⟩

/-- The value to write for this answer at `now`. -/
def stamp (f : Fetched) (now : Moment) : Value := Value.stamped now f.payload f.volatile

end Fetched

end ReadThrough
