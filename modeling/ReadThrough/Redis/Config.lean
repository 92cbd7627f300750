import ReadThrough.Text.Numeral
import ReadThrough.Time.Duration

/-!
# Where a Redis server is

The settings of a connection, and the one line of text that carries them to the client. With a
password the line names a user, and `default` where no user is given; without a password there
is nothing to log in with, so a user alone is left out.
-/

set_option autoImplicit false

namespace ReadThrough.Redis

/-- The settings of a connection. -/
structure Config where
  host : String
  port : Nat
  username : Option String
  password : Option String
  database : Nat
  poolSize : Nat
  timeout : Duration
  deriving DecidableEq, Repr

namespace Config

/-- How many connections are kept where nothing else is said. -/
def defaultPoolSize : Nat := 16

/-- A server on this machine, its first database, and nobody to log in. -/
def default : Config where
  host := "localhost"
  port := 6379
  username := none
  password := none
  database := 0
  poolSize := defaultPoolSize
  timeout := .ofSeconds 5

instance : Inhabited Config := ⟨default⟩

/-- Host, port and database. -/
def place (c : Config) : String := c.host ++ ":" ++ toString c.port ++ "/" ++ toString c.database

/-- The line that carries the settings. -/
def connectionString (c : Config) : String :=
  match c.username, c.password with
  | some username, some password =>
    "redis://" ++ username ++ ":" ++ password ++ "@" ++ c.place
  | none, some password => "redis://default:" ++ password ++ "@" ++ c.place
  | _, none => "redis://" ++ c.place

/-- The pool size that the environment gives, or the default where it gives none. -/
def poolSizeOf (raw : Option (List UInt8)) : Nat :=
  ((raw.bind fun bytes => String.fromUTF8? ⟨bytes.toArray⟩).bind
    (Text.Numeral.read? Text.Numeral.bound32)).getD defaultPoolSize

end Config

end ReadThrough.Redis
