import ReadThrough.Coalescer
import ReadThrough.Proofs.Lists

/-!
# The table of fetches under way

A coalescer keeps two things that must agree: the list of all fetches so far, each with how far
it has come, and the table of the keys that are taken. `Sound` says that they do: under a key
stands the number of a fetch exactly when that fetch is for that key and is not over. At most
one fetch of a key is under way then, because a table has one entry under a key.

Every operation of a coalescer does one of three things to the list: it starts a fetch of a key
that is free, it moves a fetch that is not over on, or it ends one (`Move`). What holds of all
of them is proved of these three: soundness is kept, and what is said of a fetch once (its key,
its plan, its result) stays said.
-/

set_option autoImplicit false

namespace ReadThrough

/-- The fetch has been started and is not over. -/
def Fetch.Stage.isAlive : Fetch.Stage → Bool
  | .ended _ => false
  | _ => true

namespace Coalescer

variable {σ : Type} {c c' : Coalescer σ} {key : String} {plan : σ} {id : Nat}

/-- The fetch of this number is for this key and is not over. -/
def IsAlive (c : Coalescer σ) (id : Nat) (key : String) : Prop :=
  ∃ f, c.fetches[id]? = some f ∧ f.key = key ∧ f.stage.isAlive = true

/-- The table of the taken keys says exactly which fetches are not over. -/
def Sound (c : Coalescer σ) : Prop :=
  ∀ key id, c.inFlight.get? key = some id ↔ c.IsAlive id key

/-! ## What each operation does to the list and to the table -/

@[simp] theorem setStage_inFlight (c : Coalescer σ) (id : Nat) (s : Fetch.Stage) :
    (c.setStage id s).inFlight = c.inFlight := rfl

@[simp] theorem setStage_fetches_length (c : Coalescer σ) (id : Nat) (s : Fetch.Stage) :
    (c.setStage id s).fetches.length = c.fetches.length := by
  simp [setStage]

theorem getElem?_setStage (c : Coalescer σ) (id i : Nat) (s : Fetch.Stage) :
    (c.setStage id s).fetches[i]? =
      (c.fetches[i]?).map fun f => if id = i then { f with stage := s } else f := by
  simp only [setStage, List.getElem?_modify]
  by_cases h : id = i <;> simp [h]

/-- A fetch is afterwards the one that came to another stage, or is as it was. -/
theorem getElem?_setStage_cases {i : Nat} {s : Fetch.Stage} {g : Fetch σ}
    (h : (c.setStage id s).fetches[i]? = some g) :
    (id = i ∧ ∃ f, c.fetches[id]? = some f ∧ g = { f with stage := s }) ∨
      (id ≠ i ∧ c.fetches[i]? = some g) :=
  getElem?_modify_cases h

@[simp] theorem release_fetches (c : Coalescer σ) (key : String) (id : Nat) :
    (c.release key id).fetches = c.fetches := by
  unfold release
  split <;> rfl

theorem get?_release (c : Coalescer σ) (key other : String) (id : Nat) :
    (c.release key id).inFlight.get? other =
      if other = key ∧ c.inFlight.get? key = some id then none else c.inFlight.get? other := by
  unfold release
  by_cases h : c.inFlight.get? key = some id
  · simp [h, Table.get?_erase]
  · simp [h]

@[simp] theorem finish_inFlight (c : Coalescer σ) (key : String) (id : Nat)
    (r : Except Error Fetched) : (c.finish key id r).inFlight = (c.release key id).inFlight :=
  rfl

theorem getElem?_finish (c : Coalescer σ) (key : String) (id i : Nat)
    (r : Except Error Fetched) :
    (c.finish key id r).fetches[i]? =
      (c.fetches[i]?).map fun f => if id = i then { f with stage := .ended r } else f := by
  rw [finish, getElem?_setStage, release_fetches]

theorem getElem?_finish_cases {i : Nat} {r : Except Error Fetched} {g : Fetch σ}
    (h : (c.finish key id r).fetches[i]? = some g) :
    (id = i ∧ ∃ f, c.fetches[id]? = some f ∧ g = { f with stage := .ended r }) ∨
      (id ≠ i ∧ c.fetches[i]? = some g) := by
  have split := getElem?_setStage_cases h
  rw [release_fetches] at split
  exact split

theorem setStage_setStage (c : Coalescer σ) (id : Nat) (s s' : Fetch.Stage) :
    (c.setStage id s).setStage id s' = c.setStage id s' := by
  simp only [setStage, List.modify_modify_eq]
  rfl

theorem release_setStage (c : Coalescer σ) (key : String) (id : Nat) (s : Fetch.Stage) :
    (c.setStage id s).release key id = (c.release key id).setStage id s := by
  unfold release
  rw [setStage_inFlight]
  split <;> rfl

/-- How far a fetch had come makes no difference to its end. -/
theorem finish_setStage (c : Coalescer σ) (key : String) (id : Nat) (s : Fetch.Stage)
    (r : Except Error Fetched) : (c.setStage id s).finish key id r = c.finish key id r := by
  rw [finish, release_setStage, setStage_setStage, finish]

theorem getElem?_start (c : Coalescer σ) (key : String) (plan : σ) (i : Nat) :
    (c.start key plan).fetches[i]? =
      if i = c.fetches.length then some ⟨key, plan, .queued⟩ else c.fetches[i]? :=
  getElem?_append_singleton ..

theorem get?_start (c : Coalescer σ) (key other : String) (plan : σ) :
    (c.start key plan).inFlight.get? other =
      if other = key then some c.fetches.length else c.inFlight.get? other := by
  rw [start, Table.get?_insert]

theorem result?_eq_some_iff {r : Except Error Fetched} :
    c.result? id = some r ↔ ∃ f, c.fetches[id]? = some f ∧ f.stage = .ended r := by
  unfold result?
  cases h : c.fetches[id]? with
  | none => simp
  | some f =>
    obtain ⟨key, plan, stage⟩ := f
    cases stage <;> simp

theorem result?_start (c : Coalescer σ) (key : String) (plan : σ) (i : Nat) :
    (c.start key plan).result? i = c.result? i := by
  unfold result?
  rw [getElem?_start]
  by_cases h : i = c.fetches.length
  · simp [h]
  · rw [if_neg h]

/-! ## The calls, read backwards -/

/-- A caller joins the fetch that has the key, or leads a new one. -/
theorem join_cases (c : Coalescer σ) (key : String) (plan : σ) :
    (∃ id, c.inFlight.get? key = some id ∧ c.join key plan = (c, ⟨id, false⟩)) ∨
    (c.inFlight.get? key = none ∧
      c.join key plan = (c.start key plan, ⟨c.fetches.length, true⟩)) := by
  unfold join
  cases h : c.inFlight.get? key with
  | none => exact Or.inr ⟨rfl, rfl⟩
  | some id => exact Or.inl ⟨id, rfl, rfl⟩

theorem ask?_eq_some_iff {f : Fetch σ} :
    c.ask? id = some (f, c') ↔
      c.fetches[id]? = some f ∧ f.stage = .queued ∧ c' = c.setStage id .asking := by
  unfold ask?
  cases h : c.fetches[id]? with
  | none => simp
  | some g =>
    obtain ⟨key, plan, stage⟩ := g
    cases stage
    case queued =>
      simp only [Option.some.injEq, Prod.mk.injEq]
      constructor
      · rintro ⟨rfl, rfl⟩
        exact ⟨rfl, rfl, rfl⟩
      · rintro ⟨rfl, -, rfl⟩
        exact ⟨rfl, rfl⟩
    all_goals
      simp only [reduceCtorEq, Option.some.injEq, false_iff]
      rintro ⟨rfl, h, -⟩
      cases h

/-- What becomes of a fetch whose origin has answered. -/
def received (c : Coalescer σ) (key : String) (id : Nat) : Outcome Fetched → Coalescer σ
  | .ok a => c.setStage id (.storing a)
  | .failed e => c.finish key id (.error e)
  | .crashed t => c.finish key id (.error (crashError t))

theorem receive?_eq_some_iff {f : Fetch σ} {r : Outcome Fetched} :
    c.receive? id r = some (f, c') ↔
      c.fetches[id]? = some f ∧ f.stage = .asking ∧ c' = c.received f.key id r := by
  unfold receive?
  cases h : c.fetches[id]? with
  | none => simp
  | some g =>
    obtain ⟨key, plan, stage⟩ := g
    cases stage
    case asking =>
      simp only [Option.some.injEq, Prod.mk.injEq]
      constructor
      · rintro ⟨rfl, rfl⟩
        exact ⟨rfl, rfl, by cases r <;> rfl⟩
      · rintro ⟨rfl, -, rfl⟩
        exact ⟨rfl, by cases r <;> rfl⟩
    all_goals
      simp only [reduceCtorEq, Option.some.injEq, false_iff]
      rintro ⟨rfl, h, -⟩
      cases h

/-- The result of a fetch whose origin answered `a` and whose plan ended with `r`. -/
def concluded (a : Fetched) (r : Outcome Unit) : Except Error Fetched :=
  (r.map fun _ => a).caught crashError

theorem conclude?_eq_some_iff {r : Outcome Unit} :
    c.conclude? id r = some c' ↔
      ∃ f a, c.fetches[id]? = some f ∧ f.stage = .storing a ∧
        c' = c.finish f.key id (concluded a r) := by
  unfold conclude?
  cases h : c.fetches[id]? with
  | none => simp
  | some g =>
    obtain ⟨key, plan, stage⟩ := g
    cases stage
    case storing a =>
      simp only [Option.some.injEq]
      constructor
      · rintro rfl
        exact ⟨_, a, rfl, rfl, rfl⟩
      · rintro ⟨f, b, rfl, hb, rfl⟩
        cases hb
        rfl
    all_goals
      simp only [reduceCtorEq, Option.some.injEq, false_iff]
      rintro ⟨f, b, rfl, h, -⟩
      cases h

/-! ## The three things that can be done to a fetch -/

/-- What a coalescer does to its fetches. -/
inductive Move (c : Coalescer σ) : Coalescer σ → Prop
  /-- A fetch of a free key is started. -/
  | start (key : String) (plan : σ) (free : c.inFlight.get? key = none) :
      Move c (c.start key plan)
  /-- A fetch that is not over comes to another stage, and is still not over. -/
  | advance (id : Nat) (f : Fetch σ) (s : Fetch.Stage) (at_ : c.fetches[id]? = some f)
      (alive : f.stage.isAlive = true) (alive' : s.isAlive = true) : Move c (c.setStage id s)
  /-- A fetch that is not over ends. -/
  | finish (id : Nat) (f : Fetch σ) (r : Except Error Fetched)
      (at_ : c.fetches[id]? = some f) (alive : f.stage.isAlive = true) :
      Move c (c.finish f.key id r)

theorem receive?_moves {f : Fetch σ} {r : Outcome Fetched}
    (h : c.receive? id r = some (f, c')) : Move c c' := by
  obtain ⟨hf, hs, rfl⟩ := receive?_eq_some_iff.1 h
  have alive : f.stage.isAlive = true := by rw [hs]; rfl
  cases r with
  | ok a => exact .advance id f (.storing a) hf alive rfl
  | failed e => exact .finish id f _ hf alive
  | crashed t => exact .finish id f _ hf alive

/-! ## Soundness is kept -/

theorem isAlive_setStage {f : Fetch σ} {s : Fetch.Stage} (hf : c.fetches[id]? = some f)
    (alive : f.stage.isAlive = true) (alive' : s.isAlive = true) (i : Nat) (k : String) :
    (c.setStage id s).IsAlive i k ↔ c.IsAlive i k := by
  unfold IsAlive
  rw [getElem?_setStage]
  by_cases hi : id = i
  · subst hi
    simp [hf, alive, alive']
  · simp [hi]

theorem isAlive_finish {f : Fetch σ} {r : Except Error Fetched} (i : Nat) (k : String) :
    (c.finish f.key id r).IsAlive i k ↔ c.IsAlive i k ∧ i ≠ id := by
  unfold IsAlive
  rw [getElem?_finish]
  by_cases hi : id = i
  · subst hi
    cases c.fetches[id]? <;> simp [Fetch.Stage.isAlive]
  · have hi' : ¬i = id := fun e => hi e.symm
    simp [hi, hi']

theorem isAlive_start (i : Nat) (k : String) :
    (c.start key plan).IsAlive i k ↔
      (i = c.fetches.length ∧ k = key) ∨ c.IsAlive i k := by
  unfold IsAlive
  rw [getElem?_start]
  by_cases hi : i = c.fetches.length
  · have none_yet : c.fetches[i]? = none := List.getElem?_eq_none (by omega)
    simp only [hi, if_true, Option.some.injEq, true_and]
    rw [← hi, none_yet]
    constructor
    · rintro ⟨f, rfl, rfl, -⟩
      exact Or.inl rfl
    · rintro (rfl | ⟨f, hf, -⟩)
      · exact ⟨_, rfl, rfl, rfl⟩
      · cases hf
  · simp [hi]

theorem Sound.empty : (empty : Coalescer σ).Sound := by
  intro key id
  simp [Coalescer.empty, IsAlive]

theorem Sound.move (h : c.Sound) (m : Move c c') : c'.Sound := by
  intro k i
  cases m with
  | start key plan free =>
    rw [get?_start, isAlive_start]
    by_cases hk : k = key
    · subst hk
      -- The key is free, so no fetch of it was alive before.
      have none_alive : ¬c.IsAlive i k := fun ha => by
        rw [(h k i).2 ha] at free
        cases free
      simp [none_alive, eq_comm]
    · simp [hk, h k i]
  | advance id f s at_ alive alive' =>
    rw [setStage_inFlight, isAlive_setStage at_ alive alive']
    exact h k i
  | finish id f r at_ alive =>
    -- The table named this very fetch under its key.
    have named : c.inFlight.get? f.key = some id := (h f.key id).2 ⟨f, at_, rfl, alive⟩
    rw [finish_inFlight, get?_release, isAlive_finish, ← h k i]
    by_cases hk : k = f.key
    · subst hk
      simp only [named, and_self, if_true, reduceCtorEq, Option.some.injEq, false_iff, not_and]
      intro e ne
      exact ne e.symm
    · simp only [hk, false_and, if_false, iff_self_and]
      rintro hi rfl
      obtain ⟨g, hg, rfl, -⟩ := (h k i).1 hi
      rw [at_] at hg
      cases hg
      exact hk rfl

theorem Sound.alive_unique (h : c.Sound) {i j : Nat} (hi : c.IsAlive i key)
    (hj : c.IsAlive j key) : i = j := by
  have ei := (h key i).2 hi
  rw [(h key j).2 hj] at ei
  exact (Option.some.inj ei).symm

/-! ## What is said of a fetch stays said -/

theorem setStage_keeps {f g : Fetch σ} {i : Nat} (at_ : c.fetches[id]? = some g)
    (alive : g.stage.isAlive = true) (s : Fetch.Stage) (hf : c.fetches[i]? = some f) :
    ∃ f', (c.setStage id s).fetches[i]? = some f' ∧ f'.key = f.key ∧ f'.plan = f.plan ∧
      (f.stage.isAlive = false → f' = f) := by
  rw [getElem?_setStage, hf]
  refine ⟨_, rfl, ?_⟩
  by_cases hi : id = i
  · subst hi
    rw [at_] at hf
    cases hf
    simp [alive]
  · simp [hi]

/-- The fetch of the same number afterwards: its key and plan are the same, and so is everything
about it if it was over. -/
theorem Move.keeps (m : Move c c') {i : Nat} {f : Fetch σ} (hf : c.fetches[i]? = some f) :
    ∃ f', c'.fetches[i]? = some f' ∧ f'.key = f.key ∧ f'.plan = f.plan ∧
      (f.stage.isAlive = false → f' = f) := by
  cases m with
  | start key plan free =>
    have hlt := (List.getElem?_eq_some_iff.1 hf).1
    refine ⟨f, ?_, rfl, rfl, fun _ => rfl⟩
    rw [getElem?_start, if_neg (Nat.ne_of_lt hlt), hf]
  | advance id g s at_ alive alive' => exact setStage_keeps at_ alive s hf
  | finish id g r at_ alive =>
    rw [← release_fetches c g.key id] at at_ hf
    exact setStage_keeps at_ alive _ hf

theorem Move.result? (m : Move c c') {i : Nat} {r : Except Error Fetched}
    (h : c.result? i = some r) : c'.result? i = some r := by
  obtain ⟨f, hf, hs⟩ := result?_eq_some_iff.1 h
  obtain ⟨f', hf', -, -, same⟩ := m.keeps hf
  have : f' = f := same (by rw [hs]; rfl)
  exact result?_eq_some_iff.2 ⟨f', hf', by rw [this, hs]⟩

theorem Move.length_le (m : Move c c') : c.fetches.length ≤ c'.fetches.length := by
  cases m with
  | start key plan free => simp [Coalescer.start]
  | advance id f s at_ alive alive' => simp
  | finish id f r at_ alive => simp [Coalescer.finish]

end Coalescer

end ReadThrough
