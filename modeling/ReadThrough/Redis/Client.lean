import ReadThrough.Error
import ReadThrough.Redis.Address
import ReadThrough.Redis.Config
import ReadThrough.Redis.Server

/-!
# A client of a Redis server

A client keeps bytes on a server. It opens a connection when it first needs one and uses it from
then on; opening one logs in and chooses a database, as far as the connection string says so.
Entries are given their lifetime in whole milliseconds, at least one, because the server takes
no less: a lifetime of no time at all is a deletion, and never an entry that stays.

The client is made from its settings once; a pool of no connections is refused before the
connection string is looked at.
-/

set_option autoImplicit false

namespace ReadThrough.Redis

/-- The lifetime in milliseconds that the server is told; none for an entry that is over as soon
as it begins. A part of a millisecond is cut off, but never the whole lifetime. -/
def ttlMillis (ttl : Duration) : Option Nat :=
  if ttl.isZero then none else some (min (max ttl.millis 1) (Text.Numeral.bound64 - 1))

/-- The command that puts bytes under a key. -/
def setCommand (key : String) (bytes : List UInt8) : Option Duration → Command
  | none => .set key bytes
  | some ttl =>
    match ttlMillis ttl with
    | none => .delete key
    | some millis => .setFor key millis bytes

/-- The name of a command in messages. -/
def Command.name : Command → String
  | .auth _ _ => "AUTH"
  | .select _ => "SELECT"
  | .ping => "PING"
  | .get _ => "GET"
  | .set _ _ => "SET"
  | .setFor _ _ _ => "PSETEX"
  | .delete _ => "DEL"

/-- The key that a command is about. -/
def Command.key? : Command → Option String
  | .get key | .set key _ | .setFor key _ _ | .delete key => some key
  | .auth _ _ | .select _ | .ping => none

/-- What a client says when the server refuses a command. -/
def refusalError (c : Command) (text : Option String) : Error :=
  .backend ("Redis " ++ c.name ++ " failed" ++
    (match c.key? with
      | some key => " for key " ++ key
      | none => "") ++
    ": An error was signalled by the server" ++
    (match text with
      | some text => " - ResponseError: " ++ text
      | none => "- ResponseError"))

/-- What a client says when no connection can be opened. -/
def connectionError : Error := .backend "Failed to get Redis connection: "

/-- The commands that open a connection. -/
def Address.greeting (a : Address) : List Command :=
  (match a.password with
    | some password => [.auth (a.username.getD "default") password]
    | none => []) ++
    if a.database = 0 then [] else [.select a.database]

/-- A client, and whether its connection is open. -/
structure Client where
  address : Address
  connected : Bool
  deriving DecidableEq, Repr

namespace Client

/-- A client for a connection string and a pool of so many connections. -/
def ofString (connectionString : String) (poolSize : Nat) : Except Error Client :=
  if poolSize = 0 then .error (.configuration "Redis pool size must be at least 1")
  else
    match Address.read connectionString with
    | .ok address => .ok ⟨address, false⟩
    | .error f =>
      .error (.configuration ("Failed to create Redis pool: Config: Redis: " ++ f.text))

/-- A client with these settings. -/
def ofConfig (c : Config) : Except Error Client := ofString c.connectionString c.poolSize

/-- How many connections there are, and how many of them are free between commands. -/
def connections (c : Client) : Nat × Nat := if c.connected then (1, 1) else (0, 0)

end Client

/-- A client and its server, as they talk: whether the server can be reached, what it has been
sent, and the answer that it will give whatever it is asked. -/
structure Link where
  client : Client
  server : Server
  reachable : Bool
  /-- The server's clock. -/
  clock : Nat
  sent : List Command
  scripted : Option Answer

namespace Link

/-- Sends one command and brings the answer. -/
def send (l : Link) (c : Command) : Outcome Answer × Link :=
  if !l.reachable then (.failed connectionError, l)
  else
    let greeting := if l.client.connected then [] else l.client.address.greeting
    let l := { l with
      client := { l.client with connected := true }
      sent := l.sent ++ greeting ++ [c] }
    let (a, server) := match l.scripted with
      | some a => (a, l.server)
      | none => l.server.perform l.clock c
    match a with
    | .refused text => (.failed (refusalError c text), { l with server := server })
    | a => (.ok a, { l with server := server })

/-- The bytes that an answer holds; a word is the bytes of its text. -/
def bytesOf : Answer → Option (List UInt8)
  | .bytes b => b
  | .word text => some text.toUTF8.toList
  | .refused _ => none

/-- Reads the bytes under a key. -/
def get (key : String) (l : Link) : Outcome (Option (List UInt8)) × Link :=
  let (r, l) := l.send (.get key)
  (r.map bytesOf, l)

/-- Puts bytes under a key. -/
def set (key : String) (ttl : Option Duration) (bytes : List UInt8) (l : Link) :
    Outcome Unit × Link :=
  let (r, l) := l.send (setCommand key bytes ttl)
  (r.map fun _ => (), l)

/-- Takes the bytes under a key out. -/
def delete (key : String) (l : Link) : Outcome Unit × Link :=
  let (r, l) := l.send (.delete key)
  (r.map fun _ => (), l)

/-- Whether a row of characters contains another. -/
def containsRow (row : List Char) : List Char → Bool
  | [] => row.isEmpty
  | c :: rest => row.isPrefixOf (c :: rest) || containsRow row rest

/-- Whether the server answers as it should. -/
def health (l : Link) : Outcome Bool × Link :=
  let (r, l) := l.send .ping
  (r.map fun
    | .word text => containsRow "PONG".toList text.toList
    | _ => false, l)

end Link

end ReadThrough.Redis
