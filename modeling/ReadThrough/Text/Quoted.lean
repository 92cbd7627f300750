import ReadThrough.Text.Printable

/-!
# Quoted text

Text that comes from outside is quoted before it goes into a message, so that a reader sees
where it starts and ends and what is in it. A quote and a backslash get a backslash before
them, the common controls their short names, and every other character that cannot be read
where it stands its number in hexadecimal. An apostrophe stays as it is.
-/

set_option autoImplicit false

namespace ReadThrough.Text

/-- The number of a character in lowercase hexadecimal. -/
def hexNumber (c : Char) : List Char := Nat.toDigits 16 c.toNat

/-- One character as it stands between quotes. -/
def escape (c : Char) : List Char :=
  match c with
  | '"' => ['\\', '"']
  | '\\' => ['\\', '\\']
  | '\n' => ['\\', 'n']
  | '\r' => ['\\', 'r']
  | '\t' => ['\\', 't']
  | '\x00' => ['\\', '0']
  | c => if isPrintable c then [c] else ['\\', 'u', '\x7b'] ++ hexNumber c ++ ['\x7d']

/-- The text between double quotes. -/
def quote (s : String) : String :=
  String.ofList ('"' :: s.toList.flatMap escape ++ ['"'])

end ReadThrough.Text
