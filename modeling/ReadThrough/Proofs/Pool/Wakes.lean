import ReadThrough.Proofs.Pool.Balanced

/-!
# Whom a pool wakes

A pool answers every operation with the jobs and waiters it has woken, and whoever runs the pool
resumes those and nobody else. So what is not in the answer must not need a turn: a job that is
spawned or has been handed a permit, and a waiter that was told of a count of zero, is either in
the answer or was so before (`Announces`).

Beside this stands what an operation leaves alone (`Keeps`): the work of the jobs it finds, and
the waiting of the waiters. Both are kept when operations follow one another, so each is proved
of the small parts (`lower`, `handOn`, one job's change of stage) and put together.
-/

set_option autoImplicit false

namespace ReadThrough

namespace Pool

variable {β : Type} {p q r : Pool β}

/-- The waiter has not returned and has not left. -/
def Awaits (p : Pool β) (w : Nat) : Prop :=
  p.waiters[w]? = some .parked ∨ p.waiters[w]? = some .woken

theorem Awaits.lt {w : Nat} (h : p.Awaits w) : w < p.waiters.length := by
  rcases h with h | h <;> exact (List.getElem?_eq_some_iff.1 h).1

theorem Awaits.set {w v : Nat} {s : Waiter} (h : p.Awaits w) (ne : v ≠ w) :
    Awaits { p with waiters := p.waiters.set v s } w := by
  unfold Awaits
  rw [List.getElem?_set_ne ne]
  exact h

/-- What is left alone from `p` to `q`. -/
structure Keeps (p q : Pool β) : Prop where
  limit : q.limit = p.limit
  works : ∀ (j : Nat) (x : Job β), q.jobs[j]? = some x → ∃ y, p.jobs[j]? = some y ∧ y.work = x.work
  awaits : ∀ w, p.Awaits w → q.Awaits w

/-- Whoever is to take a turn in `q` was to take it in `p`, or has been woken. A job that waits
in the queue or is over has nothing to do. -/
structure Announces (p q : Pool β) (wakes : List Wake) : Prop where
  job : ∀ (j : Nat) (x : Job β), q.jobs[j]? = some x → p.jobs[j]? = some x ∨
    x.stage = .queued ∨ x.stage = .ended ∨
    ((x.stage = .spawned ∨ x.stage = .granted) ∧ Wake.job j ∈ wakes)
  waiter : ∀ w : Nat, q.waiters[w]? = some .woken →
    p.waiters[w]? = some .woken ∨ Wake.waiter w ∈ wakes

/-! ## One operation after another -/

theorem Keeps.refl (p : Pool β) : p.Keeps p :=
  ⟨rfl, fun _ x hx => ⟨x, hx, rfl⟩, fun _ h => h⟩

theorem Keeps.trans (h : p.Keeps q) (h' : q.Keeps r) : p.Keeps r where
  limit := h'.limit.trans h.limit
  works j x hx := by
    obtain ⟨y, hy, e⟩ := h'.works j x hx
    obtain ⟨z, hz, e'⟩ := h.works j y hy
    exact ⟨z, hz, e'.trans e⟩
  awaits w hw := h'.awaits w (h.awaits w hw)

theorem Announces.refl (p : Pool β) : p.Announces p [] :=
  ⟨fun _ _ h => Or.inl h, fun _ h => Or.inl h⟩

theorem Announces.trans {ws vs : List Wake} (h : p.Announces q ws) (h' : q.Announces r vs) :
    p.Announces r (ws ++ vs) where
  job j x hx := by
    rcases h'.job j x hx with same | queued | ended | ⟨ready, woken⟩
    · rcases h.job j x same with same | queued | ended | ⟨ready, woken⟩
      · exact Or.inl same
      · exact Or.inr (Or.inl queued)
      · exact Or.inr (Or.inr (Or.inl ended))
      · exact Or.inr (Or.inr (Or.inr ⟨ready, List.mem_append_left _ woken⟩))
    · exact Or.inr (Or.inl queued)
    · exact Or.inr (Or.inr (Or.inl ended))
    · exact Or.inr (Or.inr (Or.inr ⟨ready, List.mem_append_right _ woken⟩))
  waiter w hw := by
    rcases h'.waiter w hw with same | woken
    · rcases h.waiter w same with same | woken
      · exact Or.inl same
      · exact Or.inr (List.mem_append_left _ woken)
    · exact Or.inr (List.mem_append_right _ woken)

/-! ## The parts -/

theorem getElem?_setStage (p : Pool β) (id j : Nat) (s : Job.Stage) :
    (p.setStage id s).jobs[j]? =
      (p.jobs[j]?).map fun x => if id = j then { x with stage := s } else x := by
  simp only [setStage, List.getElem?_modify]
  by_cases h : id = j <;> simp [h]

theorem getElem?_setStage_cases {id j : Nat} {s : Job.Stage} {x : Job β}
    (h : (p.setStage id s).jobs[j]? = some x) :
    (id = j ∧ ∃ y, p.jobs[id]? = some y ∧ x = { y with stage := s }) ∨
      (id ≠ j ∧ p.jobs[j]? = some x) :=
  getElem?_modify_cases h

theorem Keeps.setStage (p : Pool β) (id : Nat) (s : Job.Stage) : p.Keeps (p.setStage id s) where
  limit := rfl
  works j x hx := by
    rcases getElem?_setStage_cases hx with ⟨rfl, y, hy, rfl⟩ | ⟨-, same⟩
    · exact ⟨y, hy, rfl⟩
    · exact ⟨x, same, rfl⟩
  awaits _ h := h

theorem Announces.setStage (p : Pool β) (id : Nat) {s : Job.Stage} {wakes : List Wake}
    (h : s = .queued ∨ s = .ended ∨ ((s = .spawned ∨ s = .granted) ∧ Wake.job id ∈ wakes)) :
    p.Announces (p.setStage id s) wakes where
  job j x hx := by
    rcases getElem?_setStage_cases hx with ⟨rfl, y, -, rfl⟩ | ⟨-, same⟩
    · exact Or.inr h
    · exact Or.inl same
  waiter _ hw := Or.inl hw

theorem Keeps.of_eq (limit : q.limit = p.limit) (jobs : q.jobs = p.jobs)
    (waiters : q.waiters = p.waiters) : p.Keeps q where
  limit := limit
  works j x hx := ⟨x, by rw [← jobs]; exact hx, rfl⟩
  awaits w hw := by
    unfold Awaits
    rw [waiters]
    exact hw

theorem Announces.of_eq (jobs : q.jobs = p.jobs) (waiters : q.waiters = p.waiters) :
    p.Announces q [] :=
  ⟨fun _ _ h => Or.inl (by rw [← jobs]; exact h), fun _ h => Or.inl (by rw [← waiters]; exact h)⟩

/-! Counting down and waking are told apart here, since others may act in between. -/

/-- One unit fewer, and nobody is told. -/
def countDown (p : Pool β) : Pool β := { p with pending := p.pending - 1 }

/-- Every parked waiter is woken. -/
def rouse (p : Pool β) : Pool β × List Wake :=
  ({ p with waiters := p.waiters.map fun w => if w = .parked then .woken else w },
    p.parked.map .waiter)

/-- A unit is over when it has been counted down, and those who are parked have been woken if that
has left none. -/
theorem lower_eq (p : Pool β) :
    p.lower = if p.pending = 1 then p.countDown.rouse else (p.countDown, []) := by
  unfold Pool.lower
  split
  case isTrue one =>
    unfold rouse countDown
    rw [one]
    rfl
  case isFalse => rfl

theorem Keeps.rouse (p : Pool β) : p.Keeps p.rouse.1 := by
  refine ⟨rfl, fun j x hx => ⟨x, hx, rfl⟩, ?_⟩
  intro w hw
  unfold Awaits Pool.rouse
  -- A parked waiter is woken, and still waits.
  rcases hw with parked | woken
  · exact Or.inr (by simp [parked])
  · exact Or.inr (by simp [woken])

theorem Announces.rouse (p : Pool β) : p.Announces p.rouse.1 p.rouse.2 := by
  refine ⟨fun j x hx => Or.inl hx, ?_⟩
  intro w hw
  unfold Pool.rouse at hw
  simp only [List.getElem?_map] at hw
  obtain ⟨x, hx, e⟩ := Option.map_eq_some_iff.1 hw
  have there : w < p.waiters.length := (List.getElem?_eq_some_iff.1 hx).1
  cases x with
  | parked =>
    refine Or.inr (List.mem_map.2 ⟨w, List.mem_filter.2 ⟨List.mem_range.2 there, ?_⟩, rfl⟩)
    rw [hx]
    rfl
  | woken => exact Or.inl hx
  | returned | gone => cases e

theorem Keeps.lower (p : Pool β) : p.Keeps p.lower.1 := by
  have counted : p.Keeps p.countDown := .of_eq rfl rfl rfl
  rw [lower_eq]
  split
  · exact counted.trans (.rouse _)
  · exact counted

theorem Announces.lower (p : Pool β) : p.Announces p.lower.1 p.lower.2 := by
  have counted : p.Announces p.countDown [] := .of_eq rfl rfl
  rw [lower_eq]
  split
  · exact counted.trans (.rouse _)
  · exact counted

theorem Keeps.handOn (p : Pool β) : p.Keeps p.handOn.1 := by
  unfold Pool.handOn
  split
  · exact .of_eq rfl rfl rfl
  · exact (Keeps.setStage p _ .granted).trans (.of_eq rfl rfl rfl)

theorem Announces.handOn (p : Pool β) : p.Announces p.handOn.1 p.handOn.2 := by
  unfold Pool.handOn
  split
  · exact .of_eq rfl rfl
  case h_2 next rest hq =>
    have granted : p.Announces (p.setStage next .granted) [.job next] :=
      .setStage p next (Or.inr (Or.inr ⟨Or.inr rfl, by simp⟩))
    exact granted.trans (.of_eq rfl rfl)

@[simp] theorem pending_handOn (p : Pool β) : p.handOn.1.pending = p.pending := by
  unfold Pool.handOn
  split <;> rfl

@[simp] theorem guards_handOn (p : Pool β) : p.handOn.1.guards = p.guards := by
  unfold Pool.handOn
  split <;> rfl

@[simp] theorem waiters_handOn (p : Pool β) : p.handOn.1.waiters = p.waiters := by
  unfold Pool.handOn
  split <;> rfl

@[simp] theorem limit_handOn (p : Pool β) : p.handOn.1.limit = p.limit := by
  unfold Pool.handOn
  split <;> rfl

/-! ## The operations -/

theorem Keeps.finish? {id : Nat} {wakes : List Wake} (h : p.finish? id = some (q, wakes)) :
    p.Keeps q := by
  obtain ⟨-, rfl, -⟩ := finish?_eq_some_iff.1 h
  exact ((Keeps.setStage p id .ended).trans (.handOn _)).trans (.lower _)

theorem Announces.finish? {id : Nat} {wakes : List Wake}
    (h : p.finish? id = some (q, wakes)) : p.Announces q wakes := by
  obtain ⟨-, rfl, rfl⟩ := finish?_eq_some_iff.1 h
  have ended : p.Announces (p.setStage id .ended) [] := .setStage p id (Or.inr (Or.inl rfl))
  exact ended.trans ((Announces.handOn _).trans (.lower _))

theorem Keeps.giveBack (p : Pool β) (guard : Nat) : p.Keeps (p.giveBack guard).1 := by
  unfold Pool.giveBack
  split
  · have erased : p.Keeps { p with guards := p.guards.erase guard } := .of_eq rfl rfl rfl
    exact erased.trans (.lower _)
  · exact .refl p

theorem Announces.giveBack (p : Pool β) (guard : Nat) :
    p.Announces (p.giveBack guard).1 (p.giveBack guard).2 := by
  unfold Pool.giveBack
  split
  · have erased : p.Announces { p with guards := p.guards.erase guard } [] := .of_eq rfl rfl
    exact erased.trans (.lower _)
  · exact .refl p

theorem giveBack_guards (p : Pool β) (guard : Nat) :
    (p.giveBack guard).1.guards = p.guards.erase guard := by
  unfold Pool.giveBack
  split
  case isTrue => exact lower_guards _
  case isFalse out => exact (List.erase_of_not_mem out).symm

theorem guards_finish? {id : Nat} {wakes : List Wake} (e : p.finish? id = some (q, wakes)) :
    q.guards = p.guards := by
  obtain ⟨-, rfl, -⟩ := finish?_eq_some_iff.1 e
  rw [lower_guards, guards_handOn]
  rfl

theorem getElem?_spawn (p : Pool β) (work : β) (j : Nat) :
    (p.spawn work).1.jobs[j]? =
      if j = p.jobs.length then some ⟨work, .spawned⟩ else p.jobs[j]? :=
  getElem?_append_singleton ..

theorem Announces.spawn (p : Pool β) (work : β) :
    p.Announces (p.spawn work).1 [.job p.jobs.length] where
  job j x hx := by
    rw [getElem?_spawn] at hx
    split at hx
    case isTrue last =>
      cases hx
      exact Or.inr (Or.inr (Or.inr ⟨Or.inl rfl, by simp [last]⟩))
    case isFalse => exact Or.inl hx
  waiter _ hw := Or.inl hw

theorem Keeps.wait (p : Pool β) : p.Keeps p.wait.1 where
  limit := rfl
  works _ x hx := ⟨x, hx, rfl⟩
  awaits w hw := by
    unfold Awaits Pool.wait
    rw [List.getElem?_append_left hw.lt]
    exact hw

theorem Announces.wait (p : Pool β) : p.Announces p.wait.1 [] where
  job _ _ hx := Or.inl hx
  waiter w hw := by
    unfold Pool.wait at hw
    rw [getElem?_append_singleton] at hw
    split at hw
    case isTrue =>
      -- The new waiter is parked or has returned.
      split at hw <;> cases hw
    case isFalse => exact Or.inl hw

theorem Announces.setWaiter (p : Pool β) (w : Nat) {s : Waiter} (rests : s ≠ .woken) :
    p.Announces { p with waiters := p.waiters.set w s } [] where
  job _ _ hx := Or.inl hx
  waiter v hv := by
    rcases getElem?_set_cases hv with ⟨-, same⟩ | ⟨-, before⟩
    · exact absurd same.symm rests
    · exact Or.inl before

/-- A job takes its turn: it waits in the queue, or runs; nobody else is touched. -/
theorem resume?_cases {id : Nat} {starts : Bool} (h : p.resume? id = some (starts, q)) :
    q.jobs = (p.setStage id (if starts then .running else .queued)).jobs ∧
      q.waiters = p.waiters ∧ q.guards = p.guards ∧ q.limit = p.limit ∧
      (p.stage? id = some .spawned ∨ p.stage? id = some .granted) := by
  unfold Pool.resume? at h
  split at h
  case h_1 spawned =>
    split at h <;> cases h <;> exact ⟨rfl, rfl, rfl, rfl, Or.inl spawned⟩
  case h_2 granted =>
    cases h
    exact ⟨rfl, rfl, rfl, rfl, Or.inr granted⟩
  case h_3 => cases h

theorem pending_resume? {id : Nat} {starts : Bool} (h : p.resume? id = some (starts, q)) :
    q.pending = p.pending := by
  unfold resume? at h
  split at h
  case h_1 => split at h <;> cases h <;> rfl
  case h_2 =>
    cases h
    rfl
  case h_3 => cases h

theorem resume?_job {id : Nat} {starts : Bool} (h : p.resume? id = some (starts, q)) :
    ∃ work, q.jobs[id]? = some ⟨work, if starts then .running else .queued⟩ := by
  obtain ⟨jobs, -, -, -, stage⟩ := resume?_cases h
  obtain ⟨x, hx⟩ : ∃ x, p.jobs[id]? = some x := by
    rcases stage with stage | stage <;> exact (stage?_eq_some stage).imp fun _ h => h.1
  refine ⟨x.work, ?_⟩
  rw [jobs, getElem?_setStage, hx, Option.map_some, if_pos rfl]

theorem finish?_stage (h : p.Balanced) {id : Nat} {wakes : List Wake}
    (e : p.finish? id = some (q, wakes)) : q.stage? id = some .ended := by
  obtain ⟨running, rfl, -⟩ := finish?_eq_some_iff.1 e
  have ended : (p.setStage id .ended).stage? id = some .ended := by
    rw [stage?_setStage, if_pos rfl, running, Option.map_some]
  rw [stage?, lower_jobs, ← stage?]
  unfold Pool.handOn
  split
  · exact ended
  case h_2 next rest hq =>
    -- The next in the queue is another job, since this one runs.
    have ne : next ≠ id := by
      rintro rfl
      have queued := (h.permits.queued next).1 (by rw [show p.queue = next :: rest from hq]; simp)
      rw [running] at queued
      cases queued
    show ((p.setStage id .ended).setStage next .granted).stage? id = some .ended
    rw [stage?_setStage, if_neg ne, ended]

theorem Keeps.resume? {id : Nat} {starts : Bool} (h : p.resume? id = some (starts, q)) :
    p.Keeps q := by
  obtain ⟨jobs, waiters, -, limit, -⟩ := resume?_cases h
  exact (Keeps.setStage p id _).trans (.of_eq limit jobs waiters)

theorem Announces.queue {id : Nat} (h : p.resume? id = some (false, q)) : p.Announces q [] := by
  obtain ⟨jobs, waiters, -⟩ := resume?_cases h
  have queued : p.Announces (p.setStage id .queued) [] := .setStage p id (Or.inl rfl)
  exact queued.trans (.of_eq jobs waiters)

theorem Announces.skip {id : Nat} {wakes : List Wake} (resumed : p.resume? id = some (true, q))
    (finished : q.finish? id = some (r, wakes)) : p.Announces r wakes := by
  obtain ⟨jobs, waiters, -⟩ := resume?_cases resumed
  obtain ⟨-, rfl, rfl⟩ := finish?_eq_some_iff.1 finished
  have ended : p.Announces (p.setStage id .ended) [] := .setStage p id (Or.inr (Or.inl rfl))
  have same : (p.setStage id .ended).Announces (q.setStage id .ended) [] := by
    refine .of_eq ?_ waiters
    show q.jobs.modify id _ = p.jobs.modify id _
    rw [jobs, if_pos rfl, Pool.setStage, List.modify_modify_eq]
    rfl
  exact (ended.trans same).trans ((Announces.handOn _).trans (.lower _))

end Pool

end ReadThrough
