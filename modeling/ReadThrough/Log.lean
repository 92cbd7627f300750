import ReadThrough.Error

/-!
# Log lines

What the cache notices but tells no caller goes into a log: a warning where it goes on with
something less than it was given, an error where work was lost. Operations return their lines
beside their answer, in the order in which they were noticed, and nothing here writes them
anywhere.
-/

set_option autoImplicit false

namespace ReadThrough

/-- How bad it is. -/
inductive Severity where
  | warning
  | error
  deriving DecidableEq, Repr

/-- One line of the log. -/
structure LogLine where
  severity : Severity
  text : String
  deriving DecidableEq, Repr

namespace LogLine

def warn (text : String) : LogLine := ⟨.warning, text⟩

def err (text : String) : LogLine := ⟨.error, text⟩

end LogLine

/-- An ending together with the lines that were logged on the way to it. -/
structure Reply (α : Type) where
  outcome : Outcome α
  log : List LogLine
  deriving Repr

namespace Reply

/-- An ending with nothing to log. -/
def quiet {α : Type} (r : Outcome α) : Reply α := ⟨r, []⟩

end Reply

end ReadThrough
