import ReadThrough.Proxy.Builder

/-!
# What becomes of a configuration

A proxy comes about in three ways: from a configuration as it is, from a builder after any calls on
it, and from a configuration that the environment gives. Each way ends in the same check and the
same construction, so one description serves all three (`Config.Judged`), and what differs is which
configuration it is applied to.

For the builder that is the last word on each setting (`Builder.after_eq`): a whole configuration is
a word on both of its settings, and the store is a matter of its own. For the environment it is what
the two variables come to, where an empty namespace cannot occur.

The check and the construction do not cover each other. The check asks for at least one task and a
namespace that is not empty; the pool behind it cannot count more permits than `Pool.maxPermits`, and
a bound above that passes the check and ends in a crash (`overlarge_bound_crashes`).
-/

set_option autoImplicit false

namespace ReadThrough

/-! ## The check and the construction -/

namespace Config

/-- The check looks at the bound first, then at the namespace. -/
theorem validate_cases (c : Config) :
    (c.maxTasks = 0 ∧ c.validate = .error Fault.noTasks.error) ∨
    (c.maxTasks ≠ 0 ∧ c.space = some "" ∧ c.validate = .error Fault.emptySpace.error) ∨
    (c.maxTasks ≠ 0 ∧ c.space ≠ some "" ∧ c.validate = .ok ()) := by
  unfold validate fault?
  by_cases none : c.maxTasks = 0
  · exact .inl ⟨none, by rw [if_pos none]⟩
  · by_cases unnamed : c.space = some ""
    · exact .inr (.inl ⟨none, unnamed, by rw [if_neg none, if_pos unnamed]⟩)
    · exact .inr (.inr ⟨none, unnamed, by rw [if_neg none, if_neg unnamed]⟩)

theorem validate_eq_ok_iff (c : Config) :
    c.validate = .ok () ↔ c.maxTasks ≠ 0 ∧ c.space ≠ some "" := by
  obtain ⟨none, check⟩ | ⟨some, unnamed, check⟩ | ⟨some, named, check⟩ := c.validate_cases
  · simp [check, none]
  · simp [check, unnamed]
  · simp [check, some, named]

theorem validate_eq_error_iff (c : Config) (e : Error) :
    c.validate = .error e ↔
      (c.maxTasks = 0 ∧ e = .configuration "max_background_tasks must be at least 1") ∨
      (c.maxTasks ≠ 0 ∧ c.space = some "" ∧
        e = .configuration "namespace must not be empty when set") := by
  obtain ⟨none, check⟩ | ⟨some, unnamed, check⟩ | ⟨some, named, check⟩ := c.validate_cases
  · simp [check, none, Fault.error, eq_comm]
  · simp [check, some, unnamed, Fault.error, eq_comm]
  · simp [check, some, named]

/-- The proxy that a configuration stands for: its namespace, nothing under way, and as many permits
as it has tasks. -/
def proxy (c : Config) {ω : Type} : Proxy ω := .ofPool ⟨c.space⟩ (.ofLimit c.maxTasks)

/-- What becomes of a configuration, where `made` is to come of it. -/
structure Judged {α : Type} (c : Config) (made : α) (o : Outcome α) : Prop where
  /-- It is made exactly if the check accepts the configuration and the permits can be counted. -/
  ok_iff : ∀ a, o = .ok a ↔ c.validate = .ok () ∧ c.maxTasks ≤ Pool.maxPermits ∧ a = made
  /-- An error is the error of the check. -/
  failed_iff : ∀ e, o = .failed e ↔ c.validate = .error e
  /-- A crash is a bound that the check accepts and whose permits cannot be counted. -/
  crashed_iff : ∀ t, o = .crashed t ↔ c.validate = .ok () ∧ Pool.maxPermits < c.maxTasks ∧
    t = "a semaphore may not have more than MAX_PERMITS permits (2305843009213693951)"

theorem Judged.map {α β : Type} {c : Config} {made : α} {o : Outcome α} (f : α → β)
    (h : c.Judged made o) : c.Judged (f made) (o.map f) := by
  refine ⟨fun b => ?_, fun e => ?_, fun t => ?_⟩
  · have made_iff := h.ok_iff made
    cases o with
    | ok a =>
      obtain ⟨accepted, fits, rfl⟩ := (h.ok_iff a).1 rfl
      simp [Outcome.map, accepted, fits, eq_comm]
    | failed _ | crashed _ =>
      have not_made : ¬(c.validate = .ok () ∧ c.maxTasks ≤ Pool.maxPermits) := fun both =>
        absurd (made_iff.2 ⟨both.1, both.2, rfl⟩) (by simp)
      simp only [Outcome.map, reduceCtorEq, false_iff]
      exact fun all => not_made ⟨all.1, all.2.1⟩
  · rw [← h.failed_iff]
    cases o <;> simp [Outcome.map]
  · rw [← h.crashed_iff]
    cases o <;> simp [Outcome.map]

end Config

/-- A pool is made exactly if its permits can be counted. -/
theorem Pool.create_eq {β : Type} (limit : Nat) :
    (Pool.create limit : Outcome (Pool β)) =
      if limit ≤ maxPermits then .ok (ofLimit limit)
      else
        .crashed "a semaphore may not have more than MAX_PERMITS permits (2305843009213693951)" := by
  have text : toString maxPermits = "2305843009213693951" := by decide
  rw [create, text]
  rfl

theorem Proxy.ofConfig_judged {ω : Type} (c : Config) :
    c.Judged c.proxy (Proxy.ofConfig c : Outcome (Proxy ω)) := by
  unfold Proxy.ofConfig
  cases check : c.validate with
  | error e => exact ⟨by simp [check], by simp [check], by simp [check]⟩
  | ok _ =>
    rw [Pool.create_eq]
    by_cases fits : c.maxTasks ≤ Pool.maxPermits
    · rw [if_pos fits]
      refine ⟨fun p => ?_, by simp [check, Outcome.map], fun t => ?_⟩
      · simp [check, Outcome.map, fits, Config.proxy, eq_comm]
      · simp [Outcome.map, Nat.not_lt.2 fits]
    · rw [if_neg fits]
      have large := Nat.lt_of_not_le fits
      refine ⟨fun p => ?_, by simp [check, Outcome.map], fun t => ?_⟩
      · simp [Outcome.map, fits]
      · simp [check, Outcome.map, large, eq_comm]

/-! ## The builder -/

namespace Builder

variable {σ : Type}

/-- A call on a builder. -/
inductive Call (σ : Type) where
  | store (store : σ)
  | config (config : Config)
  | space (space : String)
  | maxTasks (maxTasks : Nat)
  deriving Repr

/-- The builder after a call. -/
def make (b : Builder σ) : Call σ → Builder σ
  | .store store => b.withStore store
  | .config config => b.withConfig config
  | .space space => b.withSpace space
  | .maxTasks n => b.withMaxTasks n

/-- A new builder after these calls, in their order. -/
def after (calls : List (Call σ)) : Builder σ := calls.foldl make .empty

namespace Call

/-- The store that a call supplies. -/
def store? : Call σ → Option σ
  | .store s => some s
  | _ => none

/-- The word of a call on the namespace; a whole configuration may say that there is none. -/
def space? : Call σ → Option (Option String)
  | .config c => some c.space
  | .space s => some (some s)
  | _ => none

/-- The word of a call on the bound. -/
def maxTasks? : Call σ → Option Nat
  | .config c => some c.maxTasks
  | .maxTasks n => some n
  | _ => none

end Call

/-- The store that was supplied last. -/
def lastStore? (calls : List (Call σ)) : Option σ := calls.reverse.findSome? Call.store?

/-- The last word on each setting, and the default where there is none. -/
def lastConfig (calls : List (Call σ)) : Config :=
  ⟨(calls.reverse.findSome? Call.space?).getD none,
    (calls.reverse.findSome? Call.maxTasks?).getD 256⟩

/-- The calls on any builder come to the last word on each of its pieces. -/
theorem foldl_make_eq (calls : List (Call σ)) (b : Builder σ) :
    calls.foldl make b = ⟨(lastStore? calls).or b.store,
      ⟨(calls.reverse.findSome? Call.space?).getD b.config.space,
        (calls.reverse.findSome? Call.maxTasks?).getD b.config.maxTasks⟩⟩ := by
  induction calls generalizing b with
  | nil => rfl
  | cons call calls ih =>
    rw [List.foldl_cons, ih]
    unfold lastStore?
    simp only [List.reverse_cons, List.findSome?_append, List.findSome?_singleton]
    cases call <;>
      simp [make, withStore, withConfig, withSpace, withMaxTasks, Config.withSpace,
        Config.withMaxTasks, Call.store?, Call.space?, Call.maxTasks?]

theorem after_eq (calls : List (Call σ)) : after calls = ⟨lastStore? calls, lastConfig calls⟩ := by
  rw [after, foldl_make_eq]
  simp [empty, lastConfig, Config.default, Config.defaultMaxTasks]

theorem build_judged {ω : Type} {calls : List (Call σ)} {store : σ}
    (supplied : lastStore? calls = some store) :
    (lastConfig calls).Judged (store, (lastConfig calls).proxy)
      ((after calls).build : Outcome (σ × Proxy ω)) := by
  rw [after_eq, supplied]
  exact (Proxy.ofConfig_judged _).map fun p => (store, p)

end Builder

/-! ## The environment -/

namespace Config

theorem ofEnvironment_space (space maxTasks : Option (List UInt8)) :
    (ofEnvironment space maxTasks).1.space ≠ some "" := by
  intro found
  simp [ofEnvironment, Option.filter_eq_some_iff] at found

/-- A bound other than the default is a number that the variable spells. -/
theorem ofEnvironment_maxTasks (space maxTasks : Option (List UInt8)) (n : Nat) (other : n ≠ 256) :
    (ofEnvironment space maxTasks).1.maxTasks = n ↔ ∃ raw, variableText maxTasks = some raw ∧
      Text.Numeral.read? Text.Numeral.bound64 raw = some n := by
  unfold ofEnvironment maxTasksOf
  cases variableText maxTasks with
  | none => simp [defaultMaxTasks, other.symm]
  | some raw =>
    cases spelt : Text.Numeral.read? Text.Numeral.bound64 raw <;>
      simp [spelt, defaultMaxTasks, other.symm]

end Config

/-! ## All three ways -/

/-- What becomes of every configuration, in each of the ways in which one gets in. -/
structure BuildsExactly (σ ω : Type) : Prop where
  /-- The check accepts at least one task and no empty namespace; the bound is judged first. -/
  checked : ∀ c : Config, (c.validate = .ok () ↔ c.maxTasks ≠ 0 ∧ c.space ≠ some "") ∧
    ∀ e, c.validate = .error e ↔
      (c.maxTasks = 0 ∧ e = .configuration "max_background_tasks must be at least 1") ∨
      (c.maxTasks ≠ 0 ∧ c.space = some "" ∧
        e = .configuration "namespace must not be empty when set")
  /-- Given as it is, a configuration is judged for the proxy that it stands for. -/
  configured : ∀ c : Config, c.Judged c.proxy (Proxy.ofConfig c : Outcome (Proxy ω))
  /-- Calls on a builder that supply no store end in an error, whatever else they say. -/
  storeless : ∀ calls : List (Builder.Call σ), Builder.lastStore? calls = none →
    ((Builder.after calls).build : Outcome (σ × Proxy ω)) =
      .failed (.configuration "a backing store is required")
  /-- Calls that supply one are judged by the last word on each setting, for a proxy over the store
  that was supplied last. -/
  built : ∀ (calls : List (Builder.Call σ)) (store : σ), Builder.lastStore? calls = some store →
    (Builder.lastConfig calls).Judged (store, (Builder.lastConfig calls).proxy)
      ((Builder.after calls).build : Outcome (σ × Proxy ω))
  /-- The environment is refused only for a variable that spells zero, and ends in a crash only for
  one that spells more permits than can be counted. -/
  environment : ∀ space maxTasks : Option (List UInt8),
    ((∃ e, (Proxy.ofConfig (Config.ofEnvironment space maxTasks).1 : Outcome (Proxy ω)) =
        .failed e) ↔
      ∃ raw, Config.variableText maxTasks = some raw ∧
        Text.Numeral.read? Text.Numeral.bound64 raw = some 0) ∧
    ((∃ t, (Proxy.ofConfig (Config.ofEnvironment space maxTasks).1 : Outcome (Proxy ω)) =
        .crashed t) ↔
      ∃ raw n, Config.variableText maxTasks = some raw ∧
        Text.Numeral.read? Text.Numeral.bound64 raw = some n ∧ Pool.maxPermits < n)

theorem ofConfig_ofEnvironment_failed_iff {ω : Type} (space maxTasks : Option (List UInt8)) :
    (∃ e, (Proxy.ofConfig (Config.ofEnvironment space maxTasks).1 : Outcome (Proxy ω)) =
        .failed e) ↔
      ∃ raw, Config.variableText maxTasks = some raw ∧
        Text.Numeral.read? Text.Numeral.bound64 raw = some 0 := by
  rw [← Config.ofEnvironment_maxTasks space maxTasks 0 (by decide)]
  simp only [(Proxy.ofConfig_judged _).failed_iff, Config.validate_eq_error_iff]
  constructor
  · rintro ⟨e, ⟨none, -⟩ | ⟨-, unnamed, -⟩⟩
    · exact none
    · exact absurd unnamed (Config.ofEnvironment_space space maxTasks)
  · intro none
    exact ⟨_, .inl ⟨none, rfl⟩⟩

theorem ofConfig_ofEnvironment_crashed_iff {ω : Type} (space maxTasks : Option (List UInt8)) :
    (∃ t, (Proxy.ofConfig (Config.ofEnvironment space maxTasks).1 : Outcome (Proxy ω)) =
        .crashed t) ↔
      ∃ raw n, Config.variableText maxTasks = some raw ∧
        Text.Numeral.read? Text.Numeral.bound64 raw = some n ∧ Pool.maxPermits < n := by
  simp only [(Proxy.ofConfig_judged _).crashed_iff, Config.validate_eq_ok_iff]
  constructor
  · rintro ⟨t, -, large, -⟩
    have other : (Config.ofEnvironment space maxTasks).1.maxTasks ≠ 256 := fun same => by
      rw [same] at large
      exact absurd large (by decide)
    obtain ⟨raw, text, spelt⟩ :=
      (Config.ofEnvironment_maxTasks space maxTasks _ other).1 rfl
    exact ⟨raw, _, text, spelt, large⟩
  · rintro ⟨raw, n, text, spelt, large⟩
    have other : n ≠ 256 := fun same => absurd (same ▸ large) (by decide)
    have bound := (Config.ofEnvironment_maxTasks space maxTasks n other).2 ⟨raw, text, spelt⟩
    have some : n ≠ 0 := Nat.ne_of_gt (Nat.zero_lt_of_lt large)
    rw [bound]
    exact ⟨_, ⟨some, Config.ofEnvironment_space space maxTasks⟩, large, rfl⟩

/-- Of every configuration, of every row of calls on a builder and of every environment it is known
whether a proxy comes of it, which one, and how it is refused otherwise. -/
theorem proxies_built_exactly (σ ω : Type) : BuildsExactly σ ω where
  checked c := ⟨c.validate_eq_ok_iff, c.validate_eq_error_iff⟩
  configured := Proxy.ofConfig_judged
  storeless calls none := by rw [Builder.after_eq, none, Builder.build]
  built calls store supplied := Builder.build_judged supplied
  environment space maxTasks :=
    ⟨ofConfig_ofEnvironment_failed_iff space maxTasks,
      ofConfig_ofEnvironment_crashed_iff space maxTasks⟩

/-- The check is not complete: `2 ^ 61` background tasks pass it, and every way of building a proxy
with them ends in a crash, with a store at hand as well. The environment spells them in digits. -/
theorem overlarge_bound_crashes :
    (Config.default.withMaxTasks 2305843009213693952).validate = .ok () ∧
    (Proxy.ofConfig (Config.default.withMaxTasks 2305843009213693952) : Outcome (Proxy Unit)) =
      .crashed "a semaphore may not have more than MAX_PERMITS permits (2305843009213693951)" ∧
    ((Builder.after [.store (), .maxTasks 2305843009213693952]).build :
        Outcome (Unit × Proxy Unit)) =
      .crashed "a semaphore may not have more than MAX_PERMITS permits (2305843009213693951)" ∧
    (∃ t, (Proxy.ofConfig (Config.ofEnvironment none (some [50, 51, 48, 53, 56, 52, 51, 48, 48, 57,
        50, 49, 51, 54, 57, 51, 57, 53, 50])).1 : Outcome (Proxy Unit)) = .crashed t) ∧
    ¬∀ c : Config, (∃ p, (Proxy.ofConfig c : Outcome (Proxy Unit)) = .ok p) ↔
      c.validate = .ok () := by
  have large : Pool.maxPermits < 2305843009213693952 := by decide
  have accepted : (Config.default.withMaxTasks 2305843009213693952).validate = .ok () :=
    (Config.validate_eq_ok_iff _).2 (by decide)
  have crash : (Proxy.ofConfig (Config.default.withMaxTasks 2305843009213693952) :
      Outcome (Proxy Unit)) = .crashed _ :=
    ((Proxy.ofConfig_judged _).crashed_iff _).2 ⟨accepted, large, rfl⟩
  have built : ((Builder.after [.store (), .maxTasks 2305843009213693952]).build :
      Outcome (Unit × Proxy Unit)) = .crashed _ :=
    ((Builder.build_judged rfl).crashed_iff _).2 ⟨accepted, large, rfl⟩
  have spelt := (ofConfig_ofEnvironment_crashed_iff (ω := Unit) none (some [50, 51, 48, 53, 56, 52,
    51, 48, 48, 57, 50, 49, 51, 54, 57, 51, 57, 53, 50])).2
    ⟨"2305843009213693952", _, by decide, by decide, large⟩
  refine ⟨accepted, crash, built, spelt, fun complete => ?_⟩
  obtain ⟨p, made⟩ := (complete _).2 accepted
  rw [crash] at made
  cases made

end ReadThrough
