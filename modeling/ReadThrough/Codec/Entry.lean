import ReadThrough.Codec.Record
import ReadThrough.Log

/-!
# Entries of this cache

An entry is a record with the magic and the version of this cache. Writing one fails only for a
time before 1970. Reading one first needs the whole record, then the magic, then the version, so
bytes with several faults are reported by the first of these; bytes after the record do not
matter. Every fault is logged where it is noticed, with the wording that the caller gets.
-/

set_option autoImplicit false

namespace ReadThrough.Codec

/-- The letters `CPXY`. -/
def entryMagic : Magic := ⟨67, 80, 88, 89⟩

/-- The version of the layout that is written, and the only one that is read. -/
def entryVersion : Nat := 1

namespace Fault

/-- The wording of a fault. -/
def text : Fault → String
  | endOfInput => "Hit the end of buffer, expected more data"
  | endlessNumber =>
    "Found a varint that didn't terminate. Is the usize too big for this platform?"
  | badFlag => "Found a bool that wasn't 0 or 1"
  | badOption => "Found an Option discriminant that wasn't 0 or 1"
  | badText => "Tried to parse invalid utf-8"
  | badTime => "Serde Deserialization Error"

end Fault

/-- The wording for a value that has no written form. -/
def unwritableText : String := "Serde Serialization Error"

/-- The bytes of a value. -/
def encodeEntry (v : Value) : Reply (List UInt8) :=
  match (Record.mk entryMagic entryVersion v).encode? with
  | some bytes => .quiet (.ok bytes)
  | none =>
    ⟨.failed (.serialization unwritableText),
      [.err ("Stored value serialization failed: " ++ unwritableText)]⟩

/-- The value of a record that has been read, if it is an entry of this cache. -/
def acceptRecord (r : Record) : Reply Value :=
  if r.magic ≠ entryMagic then
    let magics := entryMagic.text ++ ", got " ++ r.magic.text
    ⟨.failed (.invalidEntry ("Invalid magic: expected " ++ magics)),
      [.warn ("Invalid stored entry: expected magic " ++ magics)]⟩
  else if r.version ≠ entryVersion then
    ⟨.failed (.versionMismatch entryVersion r.version),
      [.warn ("Stored entry version mismatch: expected " ++ toString entryVersion ++ ", got " ++
        toString r.version)]⟩
  else .quiet (.ok r.value)

/-- The value that stored bytes hold. -/
def decodeEntry (bytes : List UInt8) : Reply Value :=
  match readRecord bytes with
  | .ok (r, _) => acceptRecord r
  | .error f =>
    ⟨.failed (.deserialization f.text),
      [.err ("Stored value deserialization failed: " ++ f.text)]⟩

end ReadThrough.Codec
