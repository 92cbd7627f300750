import ReadThrough.Proofs.Proxy.Progress

/-!
# A proxy and its surroundings

A `Scene` is a proxy together with what goes on around it: the errands that it has asked for and
that nobody has run yet, and the turns it has taken so far. A run is any list of events at any
moments of the wall clock. That takes in every order in which callers can ask and leave, and in
which origins, stores and clocks can answer; events that nothing calls for are allowed as well,
and change nothing but what is still due.

What holds of a run is shown of one act. `Covered` is what the surroundings owe the proxy:
whatever a task needs to come further is due.
-/

set_option autoImplicit false

namespace ReadThrough

/-- One step of a proxy, from the state before to the state after. -/
structure Turn (ω : Type) where
  now : Moment
  event : Event ω
  before : Proxy ω
  effects : List (Effect ω)
  after : Proxy ω

/-- A proxy and its surroundings. -/
structure Scene (ω : Type) where
  proxy : Proxy ω
  /-- What has been asked for and has not been run. -/
  due : List Errand
  /-- The turns so far, the latest in front. -/
  past : List (Turn ω)

namespace Scene

variable {ω : Type}

def start (keys : KeyScheme) (maxTasks : Nat) : Scene ω :=
  ⟨.ofPool keys (.ofLimit maxTasks), [], []⟩

/-- One thing happens. An errand that is reported back is not due any more, whether or not
anybody still wanted it. -/
def act (s : Scene ω) (now : Moment) (e : Event ω) : Scene ω :=
  let due := e.errand?.elim s.due s.due.erase
  match s.proxy.step now e with
  | none => { s with due := due }
  | some (p, fx) => ⟨p, due ++ errands fx, ⟨now, e, s.proxy, fx, p⟩ :: s.past⟩

def run (s : Scene ω) (es : List (Moment × Event ω)) : Scene ω :=
  es.foldl (fun s e => s.act e.1 e.2) s

theorem run_append (s : Scene ω) (es es' : List (Moment × Event ω)) :
    s.run (es ++ es') = (s.run es).run es' := List.foldl_append

theorem run_induction {P : Scene ω → Prop} (step : ∀ s now e, P s → P (s.act now e))
    {s : Scene ω} (h : P s) (es : List (Moment × Event ω)) : P (s.run es) := by
  induction es generalizing s with
  | nil => exact h
  | cons e es ih => exact ih (step s e.1 e.2 h)

/-- An act is a step of the proxy, or changes nothing but what is due. -/
theorem act_cases (s : Scene ω) (now : Moment) (e : Event ω) :
    (s.proxy.step now e = none ∧
      s.act now e = { s with due := e.errand?.elim s.due s.due.erase }) ∨
    (∃ p fx, s.proxy.step now e = some (p, fx) ∧ s.proxy.Step now e fx p ∧
      s.act now e = ⟨p, e.errand?.elim s.due s.due.erase ++ errands fx,
        ⟨now, e, s.proxy, fx, p⟩ :: s.past⟩) := by
  unfold act
  cases h : s.proxy.step now e with
  | none => exact Or.inl ⟨rfl, rfl⟩
  | some pf =>
    obtain ⟨p, fx⟩ := pf
    exact Or.inr ⟨p, fx, rfl, Proxy.step_cases h, rfl⟩

/-- What holds at the start, and after a turn if it held before, holds of every run. The turn may
rely on whatever else is known of the run so far. -/
theorem turn_induction {keys : KeyScheme} {maxTasks : Nat} {P : List (Turn ω) → Proxy ω → Prop}
    (turn : ∀ es now e fx p, ((start keys maxTasks).run es).proxy.Step now e fx p →
      P ((start keys maxTasks).run es).past ((start keys maxTasks).run es).proxy →
      P (⟨now, e, ((start keys maxTasks).run es).proxy, fx, p⟩ ::
        ((start keys maxTasks).run es).past) p)
    (h : P [] (.ofPool keys (.ofLimit maxTasks))) (es : List (Moment × Event ω)) :
    P ((start keys maxTasks).run es).past ((start keys maxTasks).run es).proxy := by
  refine (run_induction
    (P := fun s => P s.past s.proxy ∧ ∃ es, s = (start keys maxTasks).run es) ?_ ⟨h, [], rfl⟩ es).1
  rintro s now e ⟨sofar, es, rfl⟩
  refine ⟨?_, es ++ [(now, e)], (run_append _ es [(now, e)]).symm⟩
  rcases ((start keys maxTasks).run es).act_cases now e with ⟨-, same⟩ | ⟨p, fx, -, taken, acted⟩
  · rw [same]
    exact sofar
  · rw [acted]
    exact turn es now e fx p taken sofar

/-- What a step keeps whatever happens around it, a run keeps. -/
theorem proxy_induction {P : Proxy ω → Prop}
    (step : ∀ now e fx p p', P p → p.Step now e fx p' → P p') {s : Scene ω} (h : P s.proxy)
    (es : List (Moment × Event ω)) : P (s.run es).proxy := by
  refine run_induction (P := fun s => P s.proxy) ?_ h es
  intro s now e h
  rcases s.act_cases now e with ⟨-, same⟩ | ⟨p, fx, -, taken, acted⟩
  · rw [same]
    exact h
  · rw [acted]
    exact step now e fx s.proxy p h taken

/-! ## The proxy fits together throughout -/

theorem sane_start (keys : KeyScheme) (maxTasks : Nat) :
    (start keys maxTasks : Scene ω).proxy.Sane where
  sound := .empty
  balanced := .ofLimit maxTasks
  seated c x hx := by simp [start, Proxy.ofPool] at hx
  apart c d x y w hx := by simp [start, Proxy.ofPool] at hx
  refreshes j x storeKey f hx := by simp [start, Proxy.ofPool, Pool.ofLimit] at hx
  guards := .nil
  storing id f a hf := by simp [start, Proxy.ofPool, Coalescer.empty] at hf

theorem act_sane {s : Scene ω} (h : s.proxy.Sane) (now : Moment) (e : Event ω) :
    (s.act now e).proxy.Sane := by
  rcases s.act_cases now e with ⟨-, same⟩ | ⟨p, fx, -, taken, acted⟩
  · rw [same]
    exact h
  · rw [acted]
    exact h.step taken

theorem sane_run (keys : KeyScheme) (maxTasks : Nat) (es : List (Moment × Event ω)) :
    ((start keys maxTasks).run es).proxy.Sane :=
  run_induction (P := fun s => s.proxy.Sane) (fun _ now e h => act_sane h now e)
    (sane_start keys maxTasks) es

/-! ## What is needed is due -/

/-- Whatever a task needs to come further has been asked for and has not been run. -/
def Covered (s : Scene ω) : Prop := ∀ t d, s.proxy.next? t = some d → d ∈ s.due

theorem mem_due {due : List Errand} {e : Event ω} {d : Errand} (h : d ∈ due)
    (other : e.errand? ≠ some d) : d ∈ e.errand?.elim due due.erase := by
  cases run : e.errand? with
  | none => exact h
  | some d' =>
    have ne : d ≠ d' := fun eq => other (by rw [run, eq])
    exact (List.mem_erase_of_ne ne).2 h

theorem Covered.act {s : Scene ω} (sane : s.proxy.Sane) (h : s.Covered) (now : Moment)
    (e : Event ω) : (s.act now e).Covered := by
  rcases s.act_cases now e with ⟨stuck, same⟩ | ⟨p, fx, -, taken, acted⟩
  · rw [same]
    intro t d needed
    refine mem_due (h t d needed) ?_
    intro run
    -- A needed errand is never reported in vain.
    obtain ⟨p, fx, moves⟩ := Proxy.step_of_next? sane needed run now
    rw [stuck] at moves
    cases moves
  · rw [acted]
    intro t d needed
    have task := Proxy.task_of_next? needed
    rcases taken.follows sane t d needed with before | told
    · refine List.mem_append_left _ (mem_due (h t d before) ?_)
      intro run
      refine taken.discharges sane run ?_
      rw [task]
      exact needed
    · exact List.mem_append_right _ told

theorem covered_start (keys : KeyScheme) (maxTasks : Nat) :
    (start keys maxTasks : Scene ω).Covered := by
  intro t d needed
  cases t <;> simp [start, Proxy.ofPool, Proxy.next?, Coalescer.empty, Pool.ofLimit] at needed

theorem covered_run (keys : KeyScheme) (maxTasks : Nat) (es : List (Moment × Event ω)) :
    ((start keys maxTasks).run es).Covered := by
  have both : ((start keys maxTasks).run es).proxy.Sane ∧ ((start keys maxTasks).run es).Covered :=
    run_induction (P := fun s => s.proxy.Sane ∧ s.Covered)
      (fun _ now e h => ⟨act_sane h.1 now e, h.2.act h.1 now e⟩)
      ⟨sane_start keys maxTasks, covered_start keys maxTasks⟩ es
  exact both.2

end Scene

end ReadThrough
