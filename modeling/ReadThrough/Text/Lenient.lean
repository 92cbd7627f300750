/-!
# Reading bytes as text, whatever they are

Bytes from outside should be UTF-8, and where they are not, a reader that only has to show them
goes on. Every character that is there is read; a row of bytes that starts like a character and
breaks off, or a byte that starts none, is shown as one replacement mark. A row breaks off at
the first byte that no character has in that place, and reading goes on with that byte, so a
broken character never swallows a whole one.
-/

set_option autoImplicit false

namespace ReadThrough.Text

/-- What the first byte of a character of several bytes says: the bits it holds, how many bytes
follow, and the bounds of the next one, which keep out long forms and surrogates. -/
structure Lead where
  bits : Nat
  more : Nat
  low : Nat
  high : Nat
  deriving DecidableEq, Repr

/-- The first byte of a character of several bytes. -/
def lead? (b : Nat) : Option Lead :=
  if b < 0xC2 then none
  else if b < 0xE0 then some ⟨b - 0xC0, 1, 0x80, 0xBF⟩
  else if b = 0xE0 then some ⟨0, 2, 0xA0, 0xBF⟩
  else if b = 0xED then some ⟨0xD, 2, 0x80, 0x9F⟩
  else if b < 0xF0 then some ⟨b - 0xE0, 2, 0x80, 0xBF⟩
  else if b = 0xF0 then some ⟨0, 3, 0x90, 0xBF⟩
  else if b < 0xF4 then some ⟨b - 0xF0, 3, 0x80, 0xBF⟩
  else if b = 0xF4 then some ⟨4, 3, 0x80, 0x8F⟩
  else none

/-- The character whose remaining bytes stand first, if they all do, and the bytes after what
there is of it. -/
def readMore (bits low high : Nat) : Nat → List UInt8 → Option Char × List UInt8
  | 0, rest => (some (Char.ofNat bits), rest)
  | _ + 1, [] => (none, [])
  | more + 1, b :: rest =>
    if low ≤ b.toNat ∧ b.toNat ≤ high then
      readMore (bits * 64 + b.toNat % 64) 0x80 0xBF more rest
    else (none, b :: rest)

theorem length_readMore (bits low high more : Nat) (bytes : List UInt8) :
    (readMore bits low high more bytes).2.length ≤ bytes.length := by
  induction more generalizing bits low high bytes with
  | zero => exact Nat.le_refl _
  | succ more ih =>
    cases bytes with
    | nil => exact Nat.le_refl _
    | cons b rest =>
      rw [readMore]
      split
      · exact Nat.le_succ_of_le (ih _ _ _ rest)
      · exact Nat.le_refl _

/-- The mark that stands for what is no character. -/
def replacement : Char := '\uFFFD'

/-- The characters of the bytes, with a mark for what is none. -/
def readLenient : List UInt8 → List Char
  | [] => []
  | b :: rest =>
    if b.toNat < 0x80 then Char.ofNat b.toNat :: readLenient rest
    else
      match lead? b.toNat with
      | none => replacement :: readLenient rest
      | some l =>
        have := length_readMore l.bits l.low l.high l.more rest
        (readMore l.bits l.low l.high l.more rest).1.getD replacement ::
          readLenient (readMore l.bits l.low l.high l.more rest).2
termination_by bytes => bytes.length

end ReadThrough.Text
