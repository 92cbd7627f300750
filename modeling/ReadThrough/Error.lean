/-!
# What can go wrong

An `Error` names the part of the cache that could not do its work, and carries the wording of
that part. One failed fetch is answered to every caller that waits on it, so errors are plain
values and are copied freely.

`Outcome` adds a third way to end. A step that runs code from outside (an origin, a store) may
crash instead of answering; a crash is not an error of the cache until the cache catches it,
and each place that catches one says what it makes of it.
-/

set_option autoImplicit false

namespace ReadThrough

/-- A failure that is reported to a caller. -/
inductive Error where
  /-- A value has no encoding. -/
  | serialization (text : String)
  /-- Stored bytes are cut short or corrupt. -/
  | deserialization (text : String)
  /-- A store refuses the key. -/
  | validation (text : String)
  /-- The store, or the way to it, failed. -/
  | backend (text : String)
  /-- The origin failed. -/
  | origin (text : String)
  /-- The caller waited as long as its policy allows. -/
  | timeout (text : String)
  /-- The proxy cannot be built this way. -/
  | configuration (text : String)
  /-- Stored bytes are not an entry of this cache. -/
  | invalidEntry (text : String)
  /-- An entry was written under another version of the format. -/
  | versionMismatch (expected found : Nat)
  deriving DecidableEq, Repr

namespace Error

/-- The wording shown to a reader, which names the part that failed. -/
def message : Error → String
  | serialization text => "Serialization error: " ++ text
  | deserialization text => "Deserialization error: " ++ text
  | validation text => "Validation error: " ++ text
  | backend text => "Backend error: " ++ text
  | origin text => "Origin error: " ++ text
  | timeout text => "Timeout: " ++ text
  | configuration text => "Config error: " ++ text
  | invalidEntry text => "Invalid cache entry: " ++ text
  | versionMismatch expected found =>
    "Cache version mismatch: expected " ++ toString expected ++ ", found " ++ toString found

/-- The origin failed. -/
def isOrigin : Error → Bool
  | origin _ => true
  | _ => false

/-- The store failed, or what it holds cannot be read or written. -/
def isStore : Error → Bool
  | backend _ | deserialization _ | serialization _ | invalidEntry _ | versionMismatch _ _ => true
  | _ => false

end Error

/-- How a step that may crash ends. -/
inductive Outcome (α : Type) where
  | ok (value : α)
  | failed (error : Error)
  | crashed (text : String)
  deriving Repr

namespace Outcome

/-- The same ending with another value. -/
def map {α β : Type} (f : α → β) : Outcome α → Outcome β
  | ok a => ok (f a)
  | failed e => failed e
  | crashed t => crashed t

/-- An answer or an error, as an ending. -/
def ofExcept {α : Type} : Except Error α → Outcome α
  | .ok a => ok a
  | .error e => failed e

/-- What is left when a crash has been caught and turned into an error. -/
def caught {α : Type} (onCrash : String → Error) : Outcome α → Except Error α
  | ok a => .ok a
  | failed e => .error e
  | crashed t => .error (onCrash t)

end Outcome

end ReadThrough
