import ReadThrough.Text.Numeral
import ReadThrough.Url.Ipv6
import ReadThrough.Url.Path

/-!
# Reading a URL

A URL starts with a scheme and a colon. If two slashes follow, the authority comes next: up to
the last `@` before the path the user information, then a host, and perhaps a colon and a port.
The host ends at a slash, at `?`, at `#`, or at a colon that is not between brackets. After it
come the path, the query after `?`, and after `#` a part that belongs to no server and is left
out. Without two slashes there is no host, and without one the path is just a text.

This is the reading of a URL whose scheme has no rules of its own. The host is any text that
cannot be taken for another part of the URL, or an address of a machine between brackets, and it
may be missing; but user information and a port need a host. Blanks and controls around a URL do
not belong to it, and neither do tabs and line ends inside it.
-/

set_option autoImplicit false

namespace ReadThrough

open Text

/-- The parts of a URL. User, password, path and query are as they were written, percent signs
included. -/
structure Url where
  scheme : String
  user : List Char
  password : Option (List Char)
  host : Option String
  port : Option Nat
  /-- The path, without dots. -/
  path : List Char
  query : List Char
  deriving DecidableEq, Repr

namespace Url

/-! ## Characters -/

/-- A character that is dropped at either end. -/
def isEdge (c : Char) : Bool := c.toNat ≤ 32

/-- A character that is dropped everywhere. -/
def isBreak (c : Char) : Bool := c == '\t' || c == '\n' || c == '\r'

/-- The text without what does not belong to it. -/
def tidy (cs : List Char) : List Char :=
  (((cs.dropWhile isEdge).reverse.dropWhile isEdge).reverse).filter fun c => !isBreak c

/-- A character that ends the authority. -/
def endsAuthority (c : Char) : Bool := c == '/' || c == '?' || c == '#'

/-- A character that no host may contain. -/
def isForbidden (c : Char) : Bool :=
  c.toNat = 0 || " #/:<>?@[\\]^|".toList.contains c

/-! ## Parts -/

/-- The scheme in small letters, and what follows its colon. -/
def readScheme? (cs : List Char) : Option (String × List Char) :=
  match cutAt ':' cs with
  | (scheme, some rest) =>
    if (scheme.head?.any (·.isAlpha)) &&
        scheme.all fun c => c.isAlphanum || c == '+' || c == '-' || c == '.' then
      some (String.ofList (scheme.map Char.toLower), rest)
    else none
  | (_, none) => none

/-- Divides where the host ends; `inside` says whether a bracket is open. -/
def spanHost (inside : Bool) : List Char → List Char × List Char
  | [] => ([], [])
  | c :: rest =>
    if endsAuthority c || (c == ':' && !inside) then ([], c :: rest)
    else
      let (host, rest) := spanHost (if c == '[' then true else if c == ']' then false else inside)
        rest
      (c :: host, rest)

/-- The host that a text is, if it can be one. -/
def readHost? : List Char → Option String
  | '[' :: cs =>
    if cs.getLast? = some ']' && Ipv6.isAddress cs.dropLast then some (String.ofList cs.dropLast)
    else none
  | cs => if cs.any isForbidden then none else some (String.ofList cs)

/-- The port after a colon, and what follows it; no digits at all are no port. -/
def readPort? (cs : List Char) : Option (Option Nat × List Char) :=
  let (digits, rest) := cs.span fun c => (Numeral.digit? c).isSome
  if rest.head?.all fun c => endsAuthority c || c == '\\' then
    if digits.isEmpty then some (none, rest)
    else ((Numeral.digits? 0 digits).filter (· < Numeral.bound16)).map fun n => (some n, rest)
  else none

/-- Host and port, and what follows them. An empty host is none, and then there is no port. -/
def readServer? (cs : List Char) : Option (Option String × Option Nat × List Char) :=
  match spanHost false cs with
  | ([], ':' :: _) => none
  | ([], rest) => some (none, none, rest)
  | (host, ':' :: rest) =>
    (readHost? host).bind fun host => (readPort? rest).map fun p => (some host, p.1, p.2)
  | (host, rest) => (readHost? host).map fun host => (some host, none, rest)

/-- User and password; an empty password is none. -/
def readUser (cs : List Char) : List Char × Option (List Char) :=
  let (user, password) := cutAt ':' cs
  (user, password.filter (!·.isEmpty))

/-- Path and query. -/
def readRest (cs : List Char) : List Char × List Char :=
  let (path, rest) := cs.span fun c => !(c == '?' || c == '#')
  (path, match rest with
    | '?' :: query => query.takeWhile (· ≠ '#')
    | _ => [])

/-- What follows two slashes. -/
def readAuthority? (scheme : String) (cs : List Char) : Option Url :=
  let (authority, rest) := cs.span fun c => !endsAuthority c
  let (info, place) := cutAtLast '@' authority
  if info = some [] && place.isEmpty && !rest.isEmpty then none
  else
    let (user, password) := readUser (info.getD [])
    (readServer? (place ++ rest)).bind fun (host, port, rest) =>
      if host.isNone && !(user.isEmpty && password.isNone) then none
      else
        let (path, query) := readRest rest
        some ⟨scheme, user, password, host, port, tidyPath path, query⟩

/-- The parts of a URL, if the text is one. -/
def read? (s : String) : Option Url :=
  (readScheme? (tidy s.toList)).bind fun (scheme, rest) =>
    match rest with
    | '/' :: '/' :: rest => readAuthority? scheme rest
    | rest =>
      let (path, query) := readRest rest
      let path := if path.head? = some '/' then tidyPath path else path
      some ⟨scheme, [], none, none, none, path, query⟩

end Url

end ReadThrough
