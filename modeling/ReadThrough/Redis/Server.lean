import ReadThrough.Store.Table

/-!
# A Redis server

As much of a Redis server as a cache needs: it keeps bytes under keys, with or without a time at
which they are gone, on a clock of whole milliseconds. A plain `SET` clears an earlier time.
A command is answered with bytes, with a word, or with an error.
-/

set_option autoImplicit false

namespace ReadThrough.Redis

/-- What a client can ask a server for. -/
inductive Command where
  | auth (user password : String)
  | select (database : Int)
  | ping
  | get (key : String)
  | set (key : String) (bytes : List UInt8)
  /-- Set, to be gone after so many milliseconds. -/
  | setFor (key : String) (millis : Nat) (bytes : List UInt8)
  | delete (key : String)
  deriving DecidableEq, Repr

/-- What a server answers. -/
inductive Answer where
  | bytes (b : Option (List UInt8))
  | word (text : String)
  /-- An error, perhaps with a text that says more. -/
  | refused (text : Option String)
  deriving DecidableEq, Repr

/-- Bytes, and the millisecond from which they are gone. -/
structure Held where
  bytes : List UInt8
  goneAt : Option Nat
  deriving DecidableEq, Repr

/-- What a server keeps. -/
abbrev Server := Table String Held

namespace Server

/-- The bytes under a key at a millisecond. -/
def lookup (s : Server) (now : Nat) (key : String) : Option (List UInt8) :=
  ((s.get? key).filter fun h => h.goneAt.all (now < ·)).map (·.bytes)

/-- Carries out a command. -/
def perform (s : Server) (now : Nat) : Command → Answer × Server
  | .auth _ _ | .select _ => (.word "OK", s)
  | .ping => (.word "PONG", s)
  | .get key => (.bytes (s.lookup now key), s)
  | .set key bytes => (.word "OK", s.insert key ⟨bytes, none⟩)
  | .setFor key millis bytes => (.word "OK", s.insert key ⟨bytes, some (now + millis)⟩)
  | .delete key => (.word "OK", s.erase key)

end Server

end ReadThrough.Redis
