import ReadThrough.Proofs.Proxy.Sane

/-!
# Everything comes to an end

A proxy that nobody calls any more comes to rest, whatever origins, the store and the clocks
bring and in whatever order. Every task has only so many turns ahead of it: a lookup may still
read, wait and write for itself, and start a fetch that spawns a job. `toGo` counts these turns,
more generously than exactly, and every step but a request takes some away (`Step.falls`).

The one step that takes none away is a drain that has been woken too early and parks again. For
it the woken waiters are counted: parking makes one fewer of them, and nobody is woken for
nothing.
-/

set_option autoImplicit false

namespace ReadThrough

/-- How many turns of a caller, and of what it may start, lie ahead at most. A read may be followed
by a fetch of its own, which has six, and by the job of a refresh, which has four; a wait by a save,
which has two, and the wait for that. -/
def Caller.Stage.toGo : Caller.Stage → Nat
  | .reading => 11
  | .waiting _ => 4
  | .saving _ _ | .writing | .deleting | .draining _ => 1
  | .answered _ | .gone => 0

/-- A fetch that is asking may end in a write back, so the four turns of a job are counted with it.
-/
def Fetch.Stage.toGo : Fetch.Stage → Nat
  | .queued => 6
  | .asking => 5
  | .storing _ => 1
  | .ended _ => 0

/-- A job is spawned, may queue, is granted its permit and runs. -/
def Job.Stage.toGo : Job.Stage → Nat
  | .spawned => 4
  | .queued => 3
  | .granted => 2
  | .running => 1
  | .ended => 0

/-- A save takes its turn and is answered. -/
def Save.Stage.toGo : Save.Stage → Nat
  | .queued => 2
  | .writing => 1
  | .ended _ => 0

/-- Whether a waiter is to look again. -/
def Waiter.toGo : Waiter → Nat
  | .woken => 1
  | .parked | .returned | .gone => 0

/-! ## Fetches -/

namespace Coalescer

variable {σ : Type} {c : Coalescer σ} {id : Nat} {f : Fetch σ}

/-- The turns of all fetches. -/
def toGo (c : Coalescer σ) : Nat := (c.fetches.map fun f => f.stage.toGo).sum

theorem toGo_start (c : Coalescer σ) (key : String) (plan : σ) :
    (c.start key plan).toGo = c.toGo + 6 := by
  simp [toGo, start, Fetch.Stage.toGo]

theorem toGo_setStage (at_ : c.fetches[id]? = some f) (s : Fetch.Stage) :
    (c.setStage id s).toGo + f.stage.toGo = c.toGo + s.toGo :=
  sum_modify (fun f => f.stage.toGo) _ at_

theorem toGo_setStage_lt (at_ : c.fetches[id]? = some f) {s : Fetch.Stage}
    (less : s.toGo < f.stage.toGo) : (c.setStage id s).toGo < c.toGo := by
  have moved := toGo_setStage at_ s
  omega

theorem toGo_finish (at_ : c.fetches[id]? = some f) (key : String) (r : Except Error Fetched) :
    (c.finish key id r).toGo + f.stage.toGo = c.toGo := by
  have there : (c.release key id).fetches[id]? = some f := by
    rw [release_fetches]
    exact at_
  have same : (c.release key id).toGo = c.toGo := by rw [toGo, release_fetches, toGo]
  rw [finish, toGo_setStage there, same]
  rfl

theorem toGo_finish_lt (at_ : c.fetches[id]? = some f) (key : String) (r : Except Error Fetched)
    (alive : 0 < f.stage.toGo) : (c.finish key id r).toGo < c.toGo := by
  have ended := toGo_finish at_ key r
  omega

end Coalescer

/-! ## Jobs -/

namespace Pool

variable {β : Type} {p q : Pool β} {j : Nat}

/-- The turns of all jobs. Guards and waiters have none. -/
def toGo (p : Pool β) : Nat := (p.jobs.map fun x => x.stage.toGo).sum

theorem toGo_congr (h : q.jobs = p.jobs) : q.toGo = p.toGo := by rw [toGo, h, toGo]

theorem toGo_setStage {s : Job.Stage} (h : p.stage? j = some s) (s' : Job.Stage) :
    (p.setStage j s').toGo + s.toGo = p.toGo + s'.toGo := by
  obtain ⟨x, at_, rfl⟩ := stage?_eq_some h
  exact sum_modify (fun x => x.stage.toGo) _ at_

theorem toGo_spawn (p : Pool β) (work : β) : (p.spawn work).1.toGo = p.toGo + 4 := by
  simp [toGo, spawn, Job.Stage.toGo]

theorem toGo_giveBack (p : Pool β) (guard : Nat) : (p.giveBack guard).1.toGo = p.toGo := by
  unfold giveBack
  split
  · exact toGo_congr (lower_jobs _)
  · rfl

theorem toGo_handOn_le (books : ∀ i ∈ p.queue, p.stage? i = some .queued) :
    p.handOn.1.toGo ≤ p.toGo := by
  unfold handOn
  cases hq : p.queue with
  | nil => exact Nat.le_refl _
  | cons next rest =>
    have moved := toGo_setStage (books next (by rw [hq]; simp)) .granted
    simp only [Job.Stage.toGo] at moved
    show (p.setStage next .granted).toGo ≤ p.toGo
    omega

theorem toGo_finish? (h : p.Balanced) {wakes : List Wake}
    (finished : p.finish? j = some (q, wakes)) : q.toGo < p.toGo := by
  obtain ⟨running, rfl, -⟩ := finish?_eq_some_iff.1 finished
  have handed := toGo_handOn_le fun i => ((h.retire running).1.queued i).1
  have ended := toGo_setStage running .ended
  simp only [Job.Stage.toGo] at ended
  rw [toGo_congr (lower_jobs _)]
  omega

theorem toGo_resume? {starts : Bool} (resumed : p.resume? j = some (starts, q)) :
    q.toGo < p.toGo := by
  unfold Pool.resume? at resumed
  split at resumed
  case h_1 spawned =>
    split at resumed
    · cases resumed
      have moved := toGo_setStage spawned .running
      simp only [Job.Stage.toGo] at moved
      show (p.setStage j .running).toGo < p.toGo
      omega
    · cases resumed
      have moved := toGo_setStage spawned .queued
      simp only [Job.Stage.toGo] at moved
      show (p.setStage j .queued).toGo < p.toGo
      omega
  case h_2 granted =>
    cases resumed
    have moved := toGo_setStage granted .running
    simp only [Job.Stage.toGo] at moved
    omega
  case h_3 => cases resumed

/-- How many waiters are to look again. -/
def looks (p : Pool β) : Nat := (p.waiters.map Waiter.toGo).sum

end Pool

/-! ## A step takes turns away -/

namespace Proxy

variable {ω : Type} {now : Moment} {p p' : Proxy ω}

/-- The turns of everybody: callers, fetches, jobs and saves. -/
def toGo (p : Proxy ω) : Nat :=
  (p.callers.map fun x => x.stage.toGo).sum + p.fetches.toGo + p.pool.toGo +
    (p.saves.map fun x => x.stage.toGo).sum

theorem toGo_setStage {c : Nat} {x : Caller ω} (at_ : p.callers[c]? = some x) (s : Caller.Stage) :
    (p.setStage c s).toGo + x.stage.toGo = p.toGo + s.toGo := by
  have moved := sum_modify (fun x : Caller ω => x.stage.toGo) (fun x => { x with stage := s }) at_
  change _ + x.stage.toGo = _ + s.toGo at moved
  simp only [toGo, setStage]
  omega

theorem toGo_setStage_lt {c : Nat} {x : Caller ω} (at_ : p.callers[c]? = some x)
    {s : Caller.Stage} (less : s.toGo < x.stage.toGo) : (p.setStage c s).toGo < p.toGo := by
  have moved := p.toGo_setStage at_ s
  omega

theorem toGo_fetches (p : Proxy ω) (fetches : Coalescer (Plan ω)) :
    toGo { p with fetches := fetches } + p.fetches.toGo = p.toGo + fetches.toGo := by
  simp only [toGo]
  omega

theorem toGo_pool (p : Proxy ω) (pool : Pool Work) :
    toGo { p with pool := pool } + p.pool.toGo = p.toGo + pool.toGo := by
  simp only [toGo]
  omega

theorem toGo_fetches_lt {fetches : Coalescer (Plan ω)} (fewer : fetches.toGo < p.fetches.toGo) :
    toGo { p with fetches := fetches } < p.toGo := by
  have moved := p.toGo_fetches fetches
  omega

theorem toGo_pool_lt {pool : Pool Work} (fewer : pool.toGo < p.pool.toGo) :
    toGo { p with pool := pool } < p.toGo := by
  have moved := p.toGo_pool pool
  omega

/-- A fetch that ends may still give work to the pool, but less than it took away itself. -/
theorem toGo_fetches_pool_lt {fetches : Coalescer (Plan ω)} {pool : Pool Work}
    (fewer : fetches.toGo + pool.toGo < p.fetches.toGo + p.pool.toGo) :
    toGo { p with fetches := fetches, pool := pool } < p.toGo := by
  simp only [toGo]
  omega

theorem toGo_saves (p : Proxy ω) (saves : List Save) :
    toGo { p with saves := saves } + (p.saves.map fun x => x.stage.toGo).sum =
      p.toGo + (saves.map fun x => x.stage.toGo).sum := by
  simp only [toGo]
  omega

theorem toGo_saves_set_lt {i : Nat} {x : Save} (at_ : p.saves[i]? = some x) {s : Save.Stage}
    (less : s.toGo < x.stage.toGo) :
    toGo { p with saves := p.saves.set i { x with stage := s } } < p.toGo := by
  have moved := p.toGo_saves (p.saves.set i { x with stage := s })
  have turned := sum_set (fun x : Save => x.stage.toGo) { x with stage := s } at_
  change _ + x.stage.toGo = _ + s.toGo at turned
  omega

/-- Whoever boards a flight may start one, and with it the turns of a fetch. -/
theorem Boards.toGo_le {policy : Policy} {key : String} {origin : ω} {guarded : Bool}
    {p₁ : Proxy ω} {flight : Flight} {fx : List (Effect ω)}
    (b : p.Boards policy key origin guarded p₁ flight fx) : p₁.toGo ≤ p.toGo + 6 := by
  cases b with
  | leadThrough free =>
    have started := p.toGo_fetches
      (p.fetches.start key ⟨origin, .writeThrough policy (p.keys.build key)⟩)
    rw [Coalescer.toGo_start] at started
    omega
  | leadBack free =>
    have started := p.toGo_fetches
      (p.fetches.start key ⟨origin, .writeBack policy (p.keys.build key) p.pool.nextGuard⟩)
    rw [Coalescer.toGo_start] at started
    -- A guard is no turn of a job.
    show toGo { p with fetches := p.fetches.start key _ } ≤ _
    omega
  | joinThrough => exact Nat.le_add_right _ _
  | joinBack =>
    have given := p.toGo_pool (p.pool.track.1.giveBack p.pool.nextGuard).1
    rw [Pool.toGo_giveBack, show p.pool.track.1.toGo = p.pool.toGo from rfl] at given
    omega

/-- Whoever comes to the end of a wait had some turn left. -/
theorem Settles.toGo_lt {c : Nat} {x : Caller ω} {e : Event ω} {fx : List (Effect ω)}
    {s : Caller.Stage} (how : p.Settles now c x e fx s) : s.toGo < x.stage.toGo := by
  cases how with
  | left x waits elsewhere =>
    cases stage : x.stage with
    | answered | gone =>
      rw [stage] at waits
      cases waits
    | reading | waiting | saving | writing | deleting | draining => simp [Caller.Stage.toGo]
  | unread | hit | told | gaveUp | crashed | saved | written | deleted => simp [Caller.Stage.toGo]

/-- Fewer turns lie ahead than before, or as many, and fewer waiters are to look again. -/
def Falls (p p' : Proxy ω) : Prop :=
  p'.toGo < p.toGo ∨ (p'.toGo = p.toGo ∧ p'.pool.looks < p.pool.looks)

/-- **Every step but a request takes turns away.** -/
theorem Step.falls (sane : p.Sane) {e : Event ω} {fx : List (Effect ω)} (step : p.Step now e fx p')
    (uncalled : ∀ r, e ≠ .request r) : p.Falls p' := by
  cases step with
  | arrive r | force policy key origin | drain => exact absurd rfl (uncalled _)
  | settle c x e fx s at_ how =>
    exact Or.inl (toGo_setStage_lt at_ how.toGo_lt)
  | miss c policy key origin o p₁ flight fx at_ missing how =>
    have here : p₁.callers[c]? = some ⟨.lookup policy key origin, .reading⟩ := by
      rw [how.callers]
      exact at_
    have moved := p₁.toGo_setStage here (.waiting flight)
    have boarded := how.toGo_le
    simp only [Caller.Stage.toGo] at moved
    exact Or.inl (by omega)
  | stale c policy key origin v p₁ flight fx at_ live old how =>
    have here : p₁.callers[c]? = some ⟨.lookup policy key origin, .reading⟩ := by
      rw [how.callers]
      exact at_
    have moved := toGo_setStage
      (p := { p₁ with pool := (p₁.pool.spawn (.refresh (p.keys.build key) flight.fetch)).1 }) here
      (.answered (.ok (.found v.payload true)))
    have spawned := p₁.toGo_pool (p₁.pool.spawn (.refresh (p.keys.build key) flight.fetch)).1
    have boarded := how.toGo_le
    rw [Pool.toGo_spawn] at spawned
    simp only [Caller.Stage.toGo] at moved
    exact Or.inl (by omega)
  | again c policy key origin flight a e at_ looks known forced joined =>
    have queued := p.toGo_saves (p.saves ++
      [Save.mk (p.keys.build key) (a.stamp now) (policy.ttlFor a.payload) .queued])
    have moved := toGo_setStage (p := { p with saves := p.saves ++
      [Save.mk (p.keys.build key) (a.stamp now) (policy.ttlFor a.payload) .queued] }) at_
      (.saving p.saves.length a.payload)
    simp only [List.map_append, List.sum_append, List.map_cons, List.map_nil, List.sum_cons,
      List.sum_nil, Save.Stage.toGo] at queued
    simp only [Caller.Stage.toGo] at moved
    exact Or.inl (by omega)
  | drained c q w at_ woken idle =>
    -- A waiter has no turns of its own.
    exact Or.inl (toGo_setStage_lt at_ (by simp [Caller.Stage.toGo]))
  | parks c q w at_ woken busy =>
    refine Or.inr ⟨rfl, ?_⟩
    have parked := sum_set Waiter.toGo .parked woken
    change _ + 1 = _ + 0 at parked
    show ((p.pool.waiters.set w .parked).map Waiter.toGo).sum < (p.pool.waiters.map Waiter.toGo).sum
    omega
  | leaveDrain c q w at_ => exact Or.inl (toGo_setStage_lt at_ (by simp [Caller.Stage.toGo]))
  | ask id f at_ stage =>
    exact Or.inl (toGo_fetches_lt
      (Coalescer.toGo_setStage_lt at_ (by simp [stage, Fetch.Stage.toGo])))
  | store id f a policy storeKey at_ stage plan =>
    exact Or.inl (toGo_fetches_lt
      (Coalescer.toGo_setStage_lt at_ (by simp [stage, Fetch.Stage.toGo])))
  | passOn id f a policy storeKey guard pool₁ pool₂ spawned idle at_ stage plan spawn back =>
    have ended := Coalescer.toGo_finish at_ f.key (.ok a)
    have given := Pool.toGo_giveBack pool₁ guard
    have taken := p.pool.toGo_spawn (.writeBack storeKey (a.stamp now) (policy.ttlFor a.payload))
    rw [stage] at ended
    rw [back] at given
    rw [spawn] at taken
    simp only [Fetch.Stage.toGo] at ended
    simp only at given taken
    exact Or.inl (toGo_fetches_pool_lt (by omega))
  | failThrough id f r err at_ stage bad plan =>
    exact Or.inl (toGo_fetches_lt
      (Coalescer.toGo_finish_lt at_ f.key _ (by simp [stage, Fetch.Stage.toGo])))
  | failBack id f r err guard pool₁ idle at_ stage bad plan back =>
    have ended := Coalescer.toGo_finish_lt at_ f.key (.error err)
      (by simp [stage, Fetch.Stage.toGo])
    have given := Pool.toGo_giveBack p.pool guard
    rw [back] at given
    simp only at given
    exact Or.inl (toGo_fetches_pool_lt (by omega))
  | stored id f a r at_ stage =>
    exact Or.inl (toGo_fetches_lt
      (Coalescer.toGo_finish_lt at_ f.key _ (by simp [stage, Fetch.Stage.toGo])))
  | queue j pool₁ resumed | write j pool₁ storeKey v ttl resumed
  | await j pool₁ storeKey f resumed at_ running =>
    exact Or.inl (toGo_pool_lt (Pool.toGo_resume? resumed))
  | skip j pool₁ pool₂ storeKey f r wakes resumed at_ known finished =>
    have ended := Pool.toGo_finish? (sane.balanced.resume? resumed) finished
    exact Or.inl (toGo_pool_lt (Nat.lt_trans ended (Pool.toGo_resume? resumed)))
  | endJob j work e r pool₁ wakes at_ how finished =>
    exact Or.inl (toGo_pool_lt (Pool.toGo_finish? sane.balanced finished))
  | save s x at_ stage =>
    exact Or.inl (toGo_saves_set_lt at_ (by simp [stage, Save.Stage.toGo]))
  | saved s x r at_ stage =>
    exact Or.inl (toGo_saves_set_lt at_ (by simp [stage, Save.Stage.toGo]))

end Proxy

end ReadThrough
