import ReadThrough.Codec.Varint
import ReadThrough.Value

/-!
# The record format

A record is a value in an envelope: four bytes of magic, which say that the bytes belong to this
cache, and the version of the layout. After them come the fields of the value in a fixed order:
the time of the write (a tag, then seconds and nanoseconds since the start of 1970), the two
flags, and the payload with its length before it.

`readRecord` reads from the left and stops at the first thing that is not part of a record. It
judges the shape alone; whether the magic and the version are the expected ones is judged
afterwards, on the whole record. What follows the record is returned, not judged.
-/

set_option autoImplicit false

namespace ReadThrough.Codec

/-- The first four bytes of a record. -/
structure Magic where
  b0 : UInt8
  b1 : UInt8
  b2 : UInt8
  b3 : UInt8
  deriving DecidableEq, Repr

namespace Magic

def toList (m : Magic) : List UInt8 := [m.b0, m.b1, m.b2, m.b3]

/-- The bytes as a list of numbers between brackets. -/
def text (m : Magic) : String :=
  "[" ++ ", ".intercalate (m.toList.map fun b => toString b.toNat) ++ "]"

end Magic

/-- A value with its magic and version. -/
structure Record where
  magic : Magic
  version : Nat
  value : Value
  deriving DecidableEq, Repr

/-! ## Writing -/

def encodeFlag (b : Bool) : List UInt8 := [if b then 1 else 0]

/-- A time of writing. A time before 1970 has no written form. -/
def encodeTime? : Option Moment → Option (List UInt8)
  | none => some [0]
  | some m => m.sinceEpoch?.map fun d => 1 :: Varint.encode d.seconds ++ Varint.encode d.nanos

def encodeText (s : String) : List UInt8 :=
  Varint.encode s.utf8ByteSize ++ s.toUTF8.toList

def encodeValue? (v : Value) : Option (List UInt8) :=
  (encodeTime? v.createdAt).map fun time =>
    time ++ encodeFlag v.volatile ++ encodeFlag v.absent ++ encodeText v.payload

/-- The written form of a record, if its time has one. -/
def Record.encode? (r : Record) : Option (List UInt8) :=
  (encodeValue? r.value).map fun value =>
    r.magic.toList ++ Varint.encode r.version ++ value

/-! ## Reading -/

def readMagic : List UInt8 → Except Fault (Magic × List UInt8)
  | b0 :: b1 :: b2 :: b3 :: rest => .ok (⟨b0, b1, b2, b3⟩, rest)
  | _ => .error .endOfInput

def readFlag : List UInt8 → Except Fault (Bool × List UInt8)
  | [] => .error .endOfInput
  | b :: rest =>
    if b = 0 then .ok (false, rest) else if b = 1 then .ok (true, rest) else .error .badFlag

/-- Seconds and nanoseconds since the start of 1970, where a billion nanoseconds or more carry
into the seconds. A time beyond the end of the clock is refused. -/
def readMoment (bytes : List UInt8) : Except Fault (Moment × List UInt8) := do
  let (seconds, bytes) ← Varint.read Varint.word64 bytes
  let (nanos, bytes) ← Varint.read Varint.word32 bytes
  match Moment.ofParts? seconds nanos with
  | some m => .ok (m, bytes)
  | none => .error .badTime

def readTime : List UInt8 → Except Fault (Option Moment × List UInt8)
  | [] => .error .endOfInput
  | b :: rest =>
    if b = 0 then .ok (none, rest)
    else if b = 1 then do
      let (m, rest) ← readMoment rest
      .ok (some m, rest)
    else .error .badOption

def readText (bytes : List UInt8) : Except Fault (String × List UInt8) := do
  let (size, bytes) ← Varint.read Varint.word64 bytes
  if bytes.length < size then .error .endOfInput
  else
    match String.fromUTF8? ⟨(bytes.take size).toArray⟩ with
    | some s => .ok (s, bytes.drop size)
    | none => .error .badText

def readValue (bytes : List UInt8) : Except Fault (Value × List UInt8) := do
  let (createdAt, bytes) ← readTime bytes
  let (volatile, bytes) ← readFlag bytes
  let (absent, bytes) ← readFlag bytes
  let (payload, bytes) ← readText bytes
  .ok (⟨createdAt, volatile, absent, payload⟩, bytes)

/-- Reads one record and returns what follows it. -/
def readRecord (bytes : List UInt8) : Except Fault (Record × List UInt8) := do
  let (magic, bytes) ← readMagic bytes
  let (version, bytes) ← Varint.read Varint.word32 bytes
  let (value, bytes) ← readValue bytes
  .ok (⟨magic, version, value⟩, bytes)

end ReadThrough.Codec
