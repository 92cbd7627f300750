import ReadThrough.Config
import ReadThrough.Proxy.Basic

/-!
# Building a proxy

A proxy is built from a configuration that has been judged, and a builder collects one piece by
piece together with the store that the proxy is to use. A missing store is noticed before the
configuration is judged. A later piece of configuration replaces an earlier one.
-/

set_option autoImplicit false

namespace ReadThrough

namespace Proxy

/-- A proxy with these settings. Settings that pass the check but ask for more background tasks
than a pool can count are a crash. -/
def ofConfig {ω : Type} (c : Config) : Outcome (Proxy ω) :=
  match c.validate with
  | .error e => .failed e
  | .ok () => (Pool.create c.maxTasks).map (ofPool ⟨c.space⟩)

end Proxy

/-- The pieces of a proxy over a store of kind `σ`. -/
structure Builder (σ : Type) where
  store : Option σ
  config : Config
  deriving Repr

namespace Builder

variable {σ : Type}

/-- No store yet, and the default configuration. -/
def empty : Builder σ := ⟨none, .default⟩

instance : Inhabited (Builder σ) := ⟨empty⟩

/-- Uses this store. -/
def withStore (b : Builder σ) (store : σ) : Builder σ := { b with store := some store }

/-- Replaces the whole configuration. -/
def withConfig (b : Builder σ) (config : Config) : Builder σ := { b with config := config }

/-- Sets the namespace. -/
def withSpace (b : Builder σ) (space : String) : Builder σ :=
  { b with config := b.config.withSpace space }

/-- Sets the bound on background tasks. -/
def withMaxTasks (b : Builder σ) (maxTasks : Nat) : Builder σ :=
  { b with config := b.config.withMaxTasks maxTasks }

/-- The store and the proxy over it. -/
def build {ω : Type} (b : Builder σ) : Outcome (σ × Proxy ω) :=
  match b.store with
  | none => .failed (.configuration "a backing store is required")
  | some store => (Proxy.ofConfig b.config).map fun p => (store, p)

end Builder

end ReadThrough
