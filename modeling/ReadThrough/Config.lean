import ReadThrough.Log
import ReadThrough.Text.Numeral
import ReadThrough.Text.Quoted

/-!
# Configuration

What is fixed for the life of a proxy: its namespace and how many background tasks run at once.
A configuration is put together freely (by hand or from the environment) and judged once, when
a proxy is built from it. Reading the environment never fails: a count that cannot be read
falls back to the default with a warning, and an empty namespace counts as none there, while
one that was set by hand is refused.
-/

set_option autoImplicit false

namespace ReadThrough

/-- The settings of a proxy. -/
structure Config where
  /-- Put before every store key. -/
  space : Option String
  /-- How many background tasks run at once; the others wait. -/
  maxTasks : Nat
  deriving DecidableEq, Repr

namespace Config

/-- The bound on background tasks where none is given. -/
def defaultMaxTasks : Nat := 256

/-- No namespace and the default bound. -/
def default : Config := ⟨none, defaultMaxTasks⟩

instance : Inhabited Config := ⟨default⟩

/-- These settings with this namespace. -/
def withSpace (c : Config) (space : String) : Config := { c with space := some space }

/-- These settings with this bound on background tasks. -/
def withMaxTasks (c : Config) (maxTasks : Nat) : Config := { c with maxTasks := maxTasks }

/-- Why a configuration is refused. -/
inductive Fault where
  | noTasks
  | emptySpace
  deriving DecidableEq, Repr

/-- The error that reports the fault. -/
def Fault.error : Fault → Error
  | noTasks => .configuration "max_background_tasks must be at least 1"
  | emptySpace => .configuration "namespace must not be empty when set"

/-- What is wrong with a configuration, the bound before the namespace. -/
def fault? (c : Config) : Option Fault :=
  if c.maxTasks = 0 then some .noTasks
  else if c.space = some "" then some .emptySpace
  else none

/-- Accepts a configuration that a proxy can run with. -/
def validate (c : Config) : Except Error Unit :=
  match c.fault? with
  | some f => .error f.error
  | none => .ok ()

/-! ## From the environment -/

/-- The text of a variable. Bytes that are not UTF-8 count as a variable that is not set. -/
def variableText (bytes : Option (List UInt8)) : Option String :=
  bytes.bind fun bs => String.fromUTF8? ⟨bs.toArray⟩

/-- The bound as the environment gives it, with a warning for one that is no number. -/
def maxTasksOf (raw : Option String) : Nat × List LogLine :=
  match raw with
  | none => (defaultMaxTasks, [])
  | some raw =>
    match Text.Numeral.read? Text.Numeral.bound64 raw with
    | some n => (n, [])
    | none =>
      (defaultMaxTasks, [.warn ("Ignoring invalid CACHE_PROXY_MAX_BACKGROUND_TASKS=" ++
        Text.quote raw ++ ", using " ++ toString defaultMaxTasks)])

/-- The configuration that the two variables give. -/
def ofEnvironment (space maxTasks : Option (List UInt8)) : Config × List LogLine :=
  let bound := maxTasksOf (variableText maxTasks)
  (⟨(variableText space).filter (· ≠ ""), bound.1⟩, bound.2)

end Config

end ReadThrough
