/-!
# Reading a written number

A setting that should be a count is read strictly: an optional single `+`, then one or more of
the ten ASCII digits, and nothing else, not even blanks. A number that does not fit below the
bound is refused like any other malformed text, because a clipped count would be a different
setting from the one that was written.
-/

set_option autoImplicit false

namespace ReadThrough.Text.Numeral

/-- One more than the largest number of 16 bits. -/
def bound16 : Nat := 65536

/-- One more than the largest number of 32 bits. -/
def bound32 : Nat := 4294967296

/-- One more than the largest number of 64 bits. -/
def bound64 : Nat := 18446744073709551616

/-- The value of a digit. -/
def digit? (c : Char) : Option Nat :=
  if '0' ≤ c ∧ c ≤ '9' then some (c.toNat - '0'.toNat) else none

/-- The value of a row of digits, continuing from `start`. -/
def digits? (start : Nat) : List Char → Option Nat
  | [] => some start
  | c :: rest => (digit? c).bind fun d => digits? (start * 10 + d) rest

/-- One or more digits. -/
def unsigned? : List Char → Option Nat
  | [] => none
  | cs => digits? 0 cs

/-- A number below `bound`, with or without a plus sign. -/
def read? (bound : Nat) (s : String) : Option Nat :=
  let value := match s.toList with
    | '+' :: rest => unsigned? rest
    | cs => unsigned? cs
  value.filter (· < bound)

end ReadThrough.Text.Numeral
