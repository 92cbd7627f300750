import ReadThrough.Text.Cut
import ReadThrough.Text.Numeral
import ReadThrough.Text.Percent

/-!
# Addresses of machines in eight groups

An address is eight groups of one to four hexadecimal digits with colons between them. Once in
it, a double colon may stand for at least one group of zeros. The last two groups may be written
as four decimal numbers below 256 with dots between them, none of which has a zero in front.
-/

set_option autoImplicit false

namespace ReadThrough.Ipv6

open Text

/-- One group. -/
def isGroup (cs : List Char) : Bool :=
  !cs.isEmpty && cs.length ≤ 4 && cs.all fun c => (hexDigit? c).isSome

/-- One of the four decimal numbers. -/
def isOctet (cs : List Char) : Bool :=
  cs == ['0'] || (cs.head? != some '0' && (Numeral.unsigned? cs).any (· < 256))

/-- Two groups, written as four decimal numbers. -/
def isQuad (cs : List Char) : Bool :=
  let parts := fields '.' cs
  parts.length == 4 && parts.all isOctet

/-- How many groups stand in a row; only the last may be written in decimal, and only where the
address ends. -/
def countGroups? (atEnd : Bool) : List (List Char) → Option Nat
  | [] => some 0
  | [part] => if isGroup part then some 1 else if atEnd && isQuad part then some 2 else none
  | part :: more => if isGroup part then (countGroups? atEnd more).map (· + 1) else none

/-- The groups in a text, none for an empty text. -/
def groupsIn? (atEnd : Bool) (cs : List Char) : Option Nat :=
  if cs.isEmpty then some 0 else countGroups? atEnd (fields ':' cs)

/-- What stands before and after the first double colon. -/
def cutZeros : List Char → List Char × Option (List Char)
  | ':' :: ':' :: rest => ([], some rest)
  | c :: rest =>
    let (before, after) := cutZeros rest
    (c :: before, after)
  | [] => ([], none)

/-- The text is an address. -/
def isAddress (cs : List Char) : Bool :=
  match cutZeros cs with
  | (all, none) => groupsIn? true all == some 8
  | (before, some after) =>
    match groupsIn? false before, groupsIn? true after with
    | some m, some n => m + n < 8
    | _, _ => false

end ReadThrough.Ipv6
