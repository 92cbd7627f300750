import ReadThrough.Url.Basic
import ReadThrough.Url.Query

/-!
# What a connection string says

A connection string is a URL. Its scheme says how the server is reached: over the network, over
the network behind encryption, which this client does not have, or through a socket on the same
machine. On the network, host and port are those of the URL, the path is the number of the
database, and the user information is the user and the password. A socket is named by the path,
and everything else stands in the query. In both the query may choose the version of the
protocol.

Each part is judged in turn, the version last, so a string with several faults is reported by
the first of them.
-/

set_option autoImplicit false

namespace ReadThrough.Redis

open Text

/-- How a server is reached. -/
inductive Place where
  | network (host : String) (port : Nat)
  /-- A socket on the same machine, by the bytes of its path. -/
  | socket (path : List UInt8)
  deriving DecidableEq, Repr

/-- The version of the protocol that is spoken. -/
inductive Version where
  | two
  | three
  deriving DecidableEq, Repr

/-- What a connection string says. -/
structure Address where
  place : Place
  database : Int
  username : Option String
  password : Option String
  version : Version
  deriving DecidableEq, Repr

namespace Address

/-- Why a connection string cannot be used. -/
inductive Fault where
  | notParsed
  | noHost
  | noEncryption
  | noPath
  | badDatabase
  | badUsername
  | badPassword
  | badVersion (version : String)
  deriving DecidableEq, Repr

/-- What is wrong, without the text that is at fault. -/
def Fault.summary : Fault → String
  | notParsed => "Redis URL did not parse"
  | noHost => "Missing hostname"
  | noEncryption => "can't connect with TLS, the feature is not enabled"
  | noPath => "Missing path"
  | badDatabase => "Invalid database number"
  | badUsername => "Username is not valid UTF-8 string"
  | badPassword => "Password is not valid UTF-8 string"
  | badVersion _ => "Invalid protocol version"

/-- The wording of a fault. -/
def Fault.text (f : Fault) : String :=
  match f with
  | badVersion version => f.summary ++ " - InvalidClientConfig: " ++ version
  | f => f.summary ++ "- InvalidClientConfig"

/-- The port where none is given. -/
def defaultPort : Nat := 6379

/-! ## Parts -/

/-- How a server is reached, as far as the scheme says it. -/
inductive Way where
  | network
  | encrypted
  | socket
  deriving DecidableEq, Repr

/-- The way that a scheme names. -/
def wayOf? (scheme : String) : Option Way :=
  if scheme ∈ ["redis", "valkey"] then some .network
  else if scheme ∈ ["rediss", "valkeys"] then some .encrypted
  else if scheme ∈ ["unix", "redis+unix", "valkey+unix"] then some .socket
  else none

/-- A signed number of 64 bits. -/
def readSigned? (cs : List Char) : Option Int :=
  let value := match cs with
    | '-' :: rest => (Numeral.unsigned? rest).map fun n => -(n : Int)
    | '+' :: rest => (Numeral.unsigned? rest).map Int.ofNat
    | cs => (Numeral.unsigned? cs).map Int.ofNat
  value.filter fun n => -9223372036854775808 ≤ n ∧ n < 9223372036854775808

/-- The database that a text names. -/
def readDatabase (cs : List Char) : Except Fault Int :=
  match readSigned? cs with
  | some n => .ok n
  | none => .error .badDatabase

/-- The database that a path names: the first one, if nothing stands between the slashes. -/
def databaseOfPath (path : List Char) : Except Fault Int :=
  let isSlash := fun c => c == '/'
  match ((path.dropWhile isSlash).reverse.dropWhile isSlash).reverse with
  | [] => .ok 0
  | cs => readDatabase cs

/-- A part that may stand behind percent signs. -/
def readText (f : Fault) (cs : List Char) : Except Fault String :=
  match percentText? cs with
  | some text => .ok text
  | none => .error f

/-- The user; an empty one is none. -/
def readUsername (cs : List Char) : Except Fault (Option String) :=
  if cs.isEmpty then .ok none else (readText .badUsername cs).map some

/-- The password, if there is one. -/
def readPassword : Option (List Char) → Except Fault (Option String)
  | none => .ok none
  | some cs => (readText .badPassword cs).map some

/-- The version that the query chooses, or the older one. -/
def readVersion (query : List Char) : Except Fault Version :=
  match Url.setting? query "protocol" with
  | none | some "2" | some "resp2" => .ok .two
  | some "3" | some "resp3" => .ok .three
  | some version => .error (.badVersion version)

/-! ## The whole -/

/-- A server on the network. -/
def ofNetworkUrl (u : Url) (host : String) : Except Fault Address := do
  let database ← databaseOfPath u.path
  let username ← readUsername u.user
  let password ← readPassword u.password
  let version ← readVersion u.query
  return ⟨.network host (u.port.getD defaultPort), database, username, password, version⟩

/-- A socket on the same machine. -/
def ofSocketUrl (u : Url) : Except Fault Address := do
  if u.path.head? ≠ some '/' || !(u.host.all (· == "localhost")) then .error .noPath
  else
    let database ← match Url.setting? u.query "db" with
      | some text => readDatabase text.toList
      | none => .ok 0
    let version ← readVersion u.query
    return ⟨.socket (percentBytes u.path), database, Url.setting? u.query "user",
      Url.setting? u.query "pass", version⟩

/-- What the URL of a server says. -/
def ofUrl (u : Url) : Except Fault Address :=
  match wayOf? u.scheme, u.host with
  | none, _ => .error .notParsed
  | some .socket, _ => ofSocketUrl u
  | some _, none => .error .noHost
  | some .encrypted, some _ => .error .noEncryption
  | some .network, some host => ofNetworkUrl u host

/-- What a connection string says, or why it cannot be used. -/
def read (s : String) : Except Fault Address :=
  match Url.read? s with
  | some u => ofUrl u
  | none => .error .notParsed

end Address

end ReadThrough.Redis
