/-!
# Store keys

Callers use their own keys. A proxy with a namespace puts it and a colon in front, so several
proxies can share one store; a proxy without one uses the caller's key as it is.
-/

set_option autoImplicit false

namespace ReadThrough

/-- How caller keys become store keys. -/
structure KeyScheme where
  space : Option String
  deriving DecidableEq, Repr, Inhabited

namespace KeyScheme

/-- The store key of a caller key. -/
def build (k : KeyScheme) (key : String) : String :=
  match k.space with
  | some space => space ++ ":" ++ key
  | none => key

theorem build_ne_empty (k : KeyScheme) {key : String} (some_key : key ≠ "") :
    k.build key ≠ "" := by
  unfold build
  split
  · simp
  · exact some_key

/-- Under one scheme, different keys have different store keys. -/
theorem build_inj (k : KeyScheme) {key other : String} :
    k.build key = k.build other ↔ key = other := by
  unfold build
  split
  · exact String.append_right_inj _
  · exact Iff.rfl

/-- Whether the store key is made anew, not the caller's own. -/
def rewrites (k : KeyScheme) : Bool := k.space.isSome

end KeyScheme

end ReadThrough
