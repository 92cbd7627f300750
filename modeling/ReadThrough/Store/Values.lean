import ReadThrough.Codec.Entry
import ReadThrough.Store.TimedMap

/-!
# A store of values

Values are kept as the bytes of their entries in something that keeps bytes under keys. The
store refuses the empty key before it looks at anything else, and a value that cannot be written
as bytes before it touches what keeps them; whatever fails, every entry stays as it was.

`ByteMap` keeps the bytes in a map whose entries expire. A lifetime whose end lies past the end
of the clock is a crash there, because the map has no error to report it with.
-/

set_option autoImplicit false

namespace ReadThrough

/-- What every store of values says of the empty key. -/
def emptyKeyError : Error := .validation "empty key"

/-! ## Over anything that keeps bytes -/

/-- Reads a value through a read of bytes. -/
def readValueBy {σ : Type} (get : σ → Outcome (Option (List UInt8)) × σ) (key : String)
    (s : σ) : Reply (Option Value) × σ :=
  if key.isEmpty then (.quiet (.failed emptyKeyError), s)
  else
    match get s with
    | (.ok none, s) => (.quiet (.ok none), s)
    | (.ok (some bytes), s) =>
      let r := Codec.decodeEntry bytes
      (⟨r.outcome.map some, r.log⟩, s)
    | (.failed e, s) => (.quiet (.failed e), s)
    | (.crashed t, s) => (.quiet (.crashed t), s)

/-- Writes a value through a write of bytes. -/
def writeValueBy {σ : Type} (set : List UInt8 → σ → Outcome Unit × σ) (key : String)
    (v : Value) (s : σ) : Reply Unit × σ :=
  if key.isEmpty then (.quiet (.failed emptyKeyError), s)
  else
    match Codec.encodeEntry v with
    | ⟨.ok bytes, log⟩ =>
      let (r, s) := set bytes s
      (⟨r, log⟩, s)
    | ⟨.failed e, log⟩ => (⟨.failed e, log⟩, s)
    | ⟨.crashed t, log⟩ => (⟨.crashed t, log⟩, s)

/-- Deletes a value through a deletion of bytes. -/
def deleteValueBy {σ : Type} (delete : σ → Outcome Unit × σ) (key : String) (s : σ) :
    Outcome Unit × σ :=
  if key.isEmpty then (.failed emptyKeyError, s) else delete s

/-! ## In memory -/

/-- Bytes under keys, in memory. -/
abbrev ByteMap := TimedMap (List UInt8)

namespace ByteMap

/-- Reads the bytes under a key. -/
def read (now : Readings) (key : String) (m : ByteMap) :
    Outcome (Option (List UInt8)) × ByteMap :=
  let (bytes, m) := m.get now key
  (.ok bytes, m)

/-- Puts bytes under a key, with a lifetime from now on, or without one. -/
def write (now : Moment) (key : String) (ttl : Option Duration) (bytes : List UInt8)
    (m : ByteMap) : Outcome Unit × ByteMap :=
  match m.insert? now key bytes ttl with
  | some m => (.ok (), m)
  | none => (.crashed Moment.endCrash, m)

/-- Takes the bytes under a key out. -/
def delete (key : String) (m : ByteMap) : Outcome Unit × ByteMap :=
  (.ok (), m.erase key)

/-- The value under a key. What a read answers and what it takes out hang on its first reading of the
clock alone (`TimedMap.get_fst`, `TimedMap.get?_get_self`), so it is given one moment. -/
def readValue (m : ByteMap) (now : Moment) (key : String) : Reply (Option Value) × ByteMap :=
  readValueBy (read (.still now) key) key m

/-- Puts a value under a key, to live for `ttl` from now on. -/
def writeValue (m : ByteMap) (now : Moment) (key : String) (v : Value) (ttl : Duration) :
    Reply Unit × ByteMap :=
  writeValueBy (write now key (some ttl)) key v m

/-- Takes the value under a key out, if there is one. -/
def deleteValue (m : ByteMap) (key : String) : Outcome Unit × ByteMap :=
  deleteValueBy (delete key) key m

end ByteMap

end ReadThrough
