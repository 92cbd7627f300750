import ReadThrough.Text.Lenient

/-!
# Bytes behind percent signs

A percent sign and two hexadecimal digits stand for one byte, and every other character for its
own bytes; a percent sign without two digits is a character like any other. So each text stands
for some bytes, but the bytes may be no text. A name or a password that is none is refused
(`percentText?`), a setting that is none is read as far as it goes (`formText`); in settings a
plus sign stands for a blank, unless it is itself behind a percent sign.
-/

set_option autoImplicit false

namespace ReadThrough.Text

/-- The value of a hexadecimal digit. -/
def hexDigit? (c : Char) : Option Nat :=
  if '0' ≤ c ∧ c ≤ '9' then some (c.toNat - '0'.toNat)
  else if 'a' ≤ c ∧ c ≤ 'f' then some (c.toNat - 'a'.toNat + 10)
  else if 'A' ≤ c ∧ c ≤ 'F' then some (c.toNat - 'A'.toNat + 10)
  else none

/-- The bytes of one character. -/
def charBytes (c : Char) : List UInt8 := c.toString.toUTF8.toList

/-- The bytes that a text with percent signs stands for. -/
def percentBytes : List Char → List UInt8
  | '%' :: a :: b :: rest =>
    match hexDigit? a, hexDigit? b with
    | some x, some y => UInt8.ofNat (16 * x + y) :: percentBytes rest
    | _, _ => charBytes '%' ++ percentBytes (a :: b :: rest)
  | c :: rest => charBytes c ++ percentBytes rest
  | [] => []
termination_by cs => cs.length

/-- The text that a text with percent signs stands for, if it stands for one. -/
def percentText? (cs : List Char) : Option String :=
  String.fromUTF8? ⟨(percentBytes cs).toArray⟩

/-- The text that a part of a setting stands for. -/
def formText (cs : List Char) : String :=
  String.ofList (readLenient (percentBytes (cs.map fun c => if c = '+' then ' ' else c)))

end ReadThrough.Text
