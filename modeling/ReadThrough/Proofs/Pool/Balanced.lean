import ReadThrough.Pool
import ReadThrough.Proofs.Lists

/-!
# The books of a pool

A pool keeps two counts apart from what they count: the permits that nobody holds, and the work
that is pending. `Permits` says that the free permits and the held ones make up the limit, and
that the queue is exactly the jobs that wait, with a free permit only if nobody does. `Tally`
says that the pending count is the guards that are out and the jobs that are not over, and that
nobody is parked once it is zero.

Inside an operation the books are out by one: a job that has ended has its permit still in hand,
and a unit is over that has not been counted down. Both predicates therefore carry by how much
they are out, and `handOn` and `lower` bring that back to nothing. Everything that is done to a
pool is one of eight moves, and each has its lemma here; a waiter that looks at the count and one
that leaves share theirs (`Balanced.setWaiter`), for both only change where one waiter stands.
-/

set_option autoImplicit false

namespace ReadThrough

/-- A job at this stage holds a permit, or has one waiting for it. -/
def Job.Stage.holds : Job.Stage → Bool
  | .granted | .running => true
  | _ => false

def Job.Stage.isAlive : Job.Stage → Bool
  | .ended => false
  | _ => true

namespace Pool

variable {β : Type} {p p' : Pool β}

/-- Permits that are held, or wait for the job they were handed to. -/
def held (p : Pool β) : Nat := p.jobs.countP (·.stage.holds)

def unfinished (p : Pool β) : Nat := p.jobs.countP (·.stage.isAlive)

/-- The permits add up, `inHand` of them being on their way. -/
structure Permits (p : Pool β) (inHand : Nat) : Prop where
  positive : 0 < p.limit
  sum : p.free + p.held + inHand = p.limit
  full : p.queue ≠ [] → p.free = 0
  queued : ∀ j, j ∈ p.queue ↔ p.stage? j = some .queued
  nodup : p.queue.Nodup

/-- Units, guards and waiters have no part in the permits. -/
theorem Permits.of_eq {inHand : Nat} (h : p.Permits inHand) (limit : p'.limit = p.limit)
    (free : p'.free = p.free) (jobs : p'.jobs = p.jobs) (queue : p'.queue = p.queue) :
    p'.Permits inHand := by
  have held : p'.held = p.held := by rw [Pool.held, jobs, Pool.held]
  have stage : ∀ j, p'.stage? j = p.stage? j := fun j => by rw [stage?, jobs, stage?]
  refine ⟨?_, ?_, ?_, fun j => ?_, ?_⟩
  · rw [limit]
    exact h.positive
  · rw [free, held, limit]
    exact h.sum
  · rw [queue, free]
    exact h.full
  · rw [queue, stage]
    exact h.queued j
  · rw [queue]
    exact h.nodup

/-- The pending work adds up, `extra` units of it being over and not counted down. -/
structure Tally (p : Pool β) (extra : Nat) : Prop where
  sum : p.pending = p.guards.length + p.unfinished + extra
  lt : ∀ g ∈ p.guards, g < p.nextGuard
  nodup : p.guards.Nodup
  quiet : p.pending = 0 → ∀ w : Nat, p.waiters[w]? ≠ some Waiter.parked

/-- The books of a pool that nobody is working on. -/
structure Balanced (p : Pool β) : Prop where
  permits : p.Permits 0
  tally : p.Tally 0

/-! ## A job moves on -/

theorem stage?_setStage (p : Pool β) (id j : Nat) (s : Job.Stage) :
    (p.setStage id s).stage? j =
      if id = j then (p.stage? id).map fun _ => s else p.stage? j := by
  unfold stage? setStage
  rw [List.getElem?_modify]
  by_cases h : id = j
  · subst h
    simp [Function.comp_def]
  · simp [h]

theorem stage?_eq_some {id : Nat} {s : Job.Stage} (h : p.stage? id = some s) :
    ∃ j, p.jobs[id]? = some j ∧ j.stage = s := by
  unfold stage? at h
  exact Option.map_eq_some_iff.1 h

theorem held_setStage {id : Nat} {s : Job.Stage} (h : p.stage? id = some s) (s' : Job.Stage) :
    (p.setStage id s').held + s.holds.toNat = p.held + s'.holds.toNat := by
  obtain ⟨j, hj, rfl⟩ := stage?_eq_some h
  exact countP_modify hj (fun j => { j with stage := s' }) (·.stage.holds)

theorem unfinished_setStage {id : Nat} {s : Job.Stage} (h : p.stage? id = some s)
    (s' : Job.Stage) :
    (p.setStage id s').unfinished + s.isAlive.toNat = p.unfinished + s'.isAlive.toNat := by
  obtain ⟨j, hj, rfl⟩ := stage?_eq_some h
  exact countP_modify hj (fun j => { j with stage := s' }) (·.stage.isAlive)

/-! ## Counting down -/

@[simp] theorem lower_jobs (p : Pool β) : p.lower.1.jobs = p.jobs := by
  unfold lower
  split <;> rfl

@[simp] theorem lower_guards (p : Pool β) : p.lower.1.guards = p.guards := by
  unfold lower
  split <;> rfl

theorem Permits.lower {n : Nat} (h : p.Permits n) : p.lower.1.Permits n := by
  unfold Pool.lower
  split <;> exact h.of_eq rfl rfl rfl rfl

/-- A unit that is over is counted down, and nobody stays parked at zero. -/
theorem Tally.lower (h : p.Tally 1) : p.lower.1.Tally 0 := by
  have sum := h.sum
  unfold Pool.lower
  split
  case isTrue one =>
    refine ⟨?_, h.lt, h.nodup, ?_⟩
    · show 0 = p.guards.length + p.unfinished + 0
      omega
    · intro _ w
      simp only [List.getElem?_map]
      cases p.waiters[w]? with
      | none => simp
      | some x => cases x <;> simp
  case isFalse more =>
    refine ⟨?_, h.lt, h.nodup, ?_⟩
    · show p.pending - 1 = p.guards.length + p.unfinished + 0
      omega
    · intro zero
      have : p.pending - 1 = 0 := zero
      omega

/-! ## Permits change hands -/

theorem Permits.handOn (h : p.Permits 1) : p.handOn.1.Permits 0 := by
  unfold Pool.handOn
  cases hq : p.queue with
  | nil =>
    refine ⟨h.positive, ?_, fun ne => absurd rfl ne, ?_, List.nodup_nil⟩
    · show p.free + 1 + p.held + 0 = p.limit
      have := h.sum
      omega
    · intro j
      show j ∈ [] ↔ p.stage? j = some .queued
      rw [← hq]
      exact h.queued j
  | cons next rest =>
    have queued : p.stage? next = some .queued := (h.queued next).1 (by rw [hq]; simp)
    have nodup := h.nodup
    rw [hq, List.nodup_cons] at nodup
    refine ⟨h.positive, ?_, fun _ => h.full (by rw [hq]; simp), ?_, nodup.2⟩
    · show p.free + (p.setStage next .granted).held + 0 = p.limit
      have sum := h.sum
      have held := held_setStage queued .granted
      simp only [Job.Stage.holds, Bool.toNat_false, Bool.toNat_true] at held
      omega
    · intro j
      show j ∈ rest ↔ (p.setStage next .granted).stage? j = some .queued
      rw [stage?_setStage]
      by_cases hj : next = j
      · subst hj
        simp [queued, nodup.1]
      · rw [if_neg hj, ← h.queued j, hq, List.mem_cons]
        simp [Ne.symm hj]

theorem Tally.handOn {n : Nat} (h : p.Tally n) (books : ∀ j ∈ p.queue, p.stage? j = some .queued) :
    p.handOn.1.Tally n := by
  unfold Pool.handOn
  cases hq : p.queue with
  | nil => exact ⟨h.sum, h.lt, h.nodup, h.quiet⟩
  | cons next rest =>
    refine ⟨?_, h.lt, h.nodup, h.quiet⟩
    show p.pending = p.guards.length + (p.setStage next .granted).unfinished + n
    have sum := h.sum
    have same := unfinished_setStage (books next (by rw [hq]; simp)) .granted
    simp only [Job.Stage.isAlive, Bool.toNat_true] at same
    omega

/-! ## The eight moves -/

/-- What may be done to a pool from outside, one operation at a time. -/
inductive Move (p : Pool β) : Pool β → Prop
  | spawn (work : β) : Move p (p.spawn work).1
  | resume (id : Nat) (starts : Bool) (p' : Pool β) (h : p.resume? id = some (starts, p')) :
      Move p p'
  | finish (id : Nat) (p' : Pool β) (wakes : List Wake) (h : p.finish? id = some (p', wakes)) :
      Move p p'
  | track : Move p p.track.1
  | giveBack (guard : Nat) : Move p (p.giveBack guard).1
  | wait : Move p p.wait.1
  | look (id : Nat) (p' : Pool β) (h : p.look? id = some p') : Move p p'
  | leave (id : Nat) : Move p (p.leave id)

theorem finish?_eq_some_iff {id : Nat} {wakes : List Wake} :
    p.finish? id = some (p', wakes) ↔
      p.stage? id = some .running ∧ p' = (p.setStage id .ended).handOn.1.lower.1 ∧
        wakes = (p.setStage id .ended).handOn.2 ++ (p.setStage id .ended).handOn.1.lower.2 := by
  unfold finish?
  cases h : p.stage? id with
  | none => simp
  | some s => cases s <;> simp [eq_comm]

theorem unfinished_spawn (p : Pool β) (work : β) :
    (p.spawn work).1.unfinished = p.unfinished + 1 := by
  simp [Pool.spawn, Pool.unfinished, Job.Stage.isAlive]

/-- A new job holds no permit and is in no queue. -/
theorem Permits.spawn (h : p.Permits 0) (work : β) : (p.spawn work).1.Permits 0 := by
  refine ⟨h.positive, ?_, h.full, ?_, h.nodup⟩
  · have held : (p.spawn work).1.held = p.held := by
      simp [Pool.spawn, Pool.held, Job.Stage.holds]
    show p.free + (p.spawn work).1.held + 0 = p.limit
    rw [held]
    exact h.sum
  · intro j
    show j ∈ p.queue ↔ (p.spawn work).1.stage? j = some .queued
    rw [h.queued j]
    show _ ↔ (p.jobs ++ [⟨work, .spawned⟩])[j]?.map Job.stage = some .queued
    rw [getElem?_append_singleton, stage?]
    split
    case isTrue last =>
      rw [last, List.getElem?_eq_none (Nat.le_refl _)]
      simp
    case isFalse => rfl

theorem Balanced.spawn (h : p.Balanced) (work : β) : (p.spawn work).1.Balanced := by
  refine ⟨h.permits.spawn work,
    ⟨?_, h.tally.lt, h.tally.nodup, fun zero => by simp [Pool.spawn] at zero⟩⟩
  have more := p.unfinished_spawn work
  have sum := h.tally.sum
  show p.pending + 1 = p.guards.length + (p.spawn work).1.unfinished + 0
  omega

theorem Tally.setStage {n : Nat} (h : p.Tally n) {id : Nat} {s s' : Job.Stage}
    (hs : p.stage? id = some s) (alive : s.isAlive = true) (alive' : s'.isAlive = true) :
    (p.setStage id s').Tally n := by
  refine ⟨?_, h.lt, h.nodup, h.quiet⟩
  have sum := h.sum
  have same := unfinished_setStage hs s'
  rw [alive, alive'] at same
  show p.pending = p.guards.length + (p.setStage id s').unfinished + n
  omega

/-- A job moves on that is not in the queue and does not come into it. A permit that it gets has
been in hand, and one that it gives up is in hand afterwards. -/
theorem Permits.setStage {inHand left : Nat} (h : p.Permits inHand) {id : Nat}
    {s s' : Job.Stage} (hs : p.stage? id = some s) (out : s ≠ .queued) (out' : s' ≠ .queued)
    (evens : s.holds.toNat + inHand = s'.holds.toNat + left) :
    (p.setStage id s').Permits left := by
  refine ⟨h.positive, ?_, h.full, ?_, h.nodup⟩
  · have sum := h.sum
    have held := held_setStage hs s'
    show p.free + (p.setStage id s').held + left = p.limit
    omega
  · intro j
    show j ∈ p.queue ↔ (p.setStage id s').stage? j = some .queued
    rw [stage?_setStage, h.queued j]
    by_cases hj : id = j
    · subst hj
      simp [hs, out, out']
    · rw [if_neg hj]

theorem Permits.take (h : p.Permits 0) (free : 0 < p.free) :
    Permits { p with free := p.free - 1 } 1 := by
  refine ⟨h.positive, ?_, ?_, h.queued, h.nodup⟩
  · have sum := h.sum
    show p.free - 1 + p.held + 1 = p.limit
    omega
  · intro ne
    have none_free : p.free = 0 := h.full ne
    omega

theorem Permits.enqueue (h : p.Permits 0) {id : Nat} (hs : p.stage? id = some .spawned)
    (none_free : p.free = 0) :
    Permits { p.setStage id .queued with queue := p.queue ++ [id] } 0 := by
  have new : id ∉ p.queue := by
    intro hm
    rw [(h.queued id).1 hm] at hs
    cases hs
  refine ⟨h.positive, ?_, fun _ => none_free, ?_, ?_⟩
  · have sum := h.sum
    have held := held_setStage hs .queued
    simp only [Job.Stage.holds, Bool.toNat_false] at held
    show p.free + (p.setStage id .queued).held + 0 = p.limit
    omega
  · intro j
    show j ∈ p.queue ++ [id] ↔ (p.setStage id .queued).stage? j = some .queued
    rw [stage?_setStage, List.mem_append, List.mem_singleton, h.queued j]
    by_cases hj : id = j
    · subst hj
      simp [hs]
    · simp [hj, Ne.symm hj]
  · show (p.queue ++ [id]).Nodup
    rw [List.nodup_append]
    refine ⟨h.nodup, by simp, ?_⟩
    intro a ha b hb
    rw [List.mem_singleton] at hb
    rintro rfl
    exact new (hb ▸ ha)

theorem Permits.resume? (h : p.Permits 0) {id : Nat} {starts : Bool}
    (e : p.resume? id = some (starts, p')) : p'.Permits 0 := by
  unfold Pool.resume? at e
  split at e
  case h_1 hs =>
    split at e
    case isTrue free =>
      cases e
      -- The permit is first in hand, and then with the job.
      exact (h.take free).setStage hs (by simp) (by simp) rfl
    case isFalse none_free =>
      cases e
      exact h.enqueue hs (Nat.eq_zero_of_not_pos none_free)
  case h_2 hs =>
    cases e
    exact h.setStage hs (by simp) (by simp) rfl
  case h_3 => cases e

theorem Tally.resume? {n : Nat} (h : p.Tally n) {id : Nat} {starts : Bool}
    (e : p.resume? id = some (starts, p')) : p'.Tally n := by
  unfold Pool.resume? at e
  split at e
  case h_1 hs =>
    split at e
    case isTrue =>
      cases e
      have tally : (p.setStage id .running).Tally n := h.setStage hs rfl rfl
      exact ⟨tally.sum, tally.lt, tally.nodup, tally.quiet⟩
    case isFalse =>
      cases e
      have tally : (p.setStage id .queued).Tally n := h.setStage hs rfl rfl
      exact ⟨tally.sum, tally.lt, tally.nodup, tally.quiet⟩
  case h_2 hs =>
    cases e
    exact h.setStage hs rfl rfl
  case h_3 => cases e

theorem Balanced.resume? (h : p.Balanced) {id : Nat} {starts : Bool}
    (e : p.resume? id = some (starts, p')) : p'.Balanced :=
  ⟨h.permits.resume? e, h.tally.resume? e⟩

/-- A job that ran is over: its permit is in hand, and its unit is not counted down. -/
theorem Balanced.retire (h : p.Balanced) {id : Nat} (hs : p.stage? id = some .running) :
    (p.setStage id .ended).Permits 1 ∧ (p.setStage id .ended).Tally 1 := by
  refine ⟨h.permits.setStage hs (by simp) (by simp) rfl, ?_, h.tally.lt, h.tally.nodup,
    h.tally.quiet⟩
  have fewer := unfinished_setStage hs .ended
  have sum := h.tally.sum
  simp only [Job.Stage.isAlive, Bool.toNat_false, Bool.toNat_true] at fewer
  show p.pending = p.guards.length + (p.setStage id .ended).unfinished + 1
  omega

theorem Balanced.finish? (h : p.Balanced) {id : Nat} {wakes : List Wake}
    (e : p.finish? id = some (p', wakes)) : p'.Balanced := by
  obtain ⟨hs, rfl, -⟩ := finish?_eq_some_iff.1 e
  obtain ⟨permits, tally⟩ := h.retire hs
  exact ⟨permits.handOn.lower, (tally.handOn fun j => (permits.queued j).1).lower⟩

theorem Balanced.track (h : p.Balanced) : p.track.1.Balanced := by
  refine ⟨h.permits.of_eq rfl rfl rfl rfl, ⟨?_, ?_, ?_, fun zero => by simp [Pool.track] at zero⟩⟩
  · have sum := h.tally.sum
    show p.pending + 1 = (p.nextGuard :: p.guards).length + p.unfinished + 0
    rw [List.length_cons]
    omega
  · intro g hg
    show g < p.nextGuard + 1
    rcases List.mem_cons.1 hg with rfl | hg
    · omega
    · have := h.tally.lt g hg
      omega
  · exact List.nodup_cons.2 ⟨fun hm => Nat.lt_irrefl _ (h.tally.lt _ hm), h.tally.nodup⟩

theorem Balanced.giveBack (h : p.Balanced) (guard : Nat) : (p.giveBack guard).1.Balanced := by
  unfold Pool.giveBack
  split
  case isTrue out =>
    have tally : Tally { p with guards := p.guards.erase guard } 1 := by
      refine ⟨?_, fun g hg => h.tally.lt g (List.mem_of_mem_erase hg), h.tally.nodup.erase _,
        h.tally.quiet⟩
      have sum := h.tally.sum
      have length := List.length_erase_of_mem out
      have some_out : 0 < p.guards.length := List.length_pos_of_mem out
      show p.pending = (p.guards.erase guard).length + p.unfinished + 1
      omega
    have permits : Permits { p with guards := p.guards.erase guard } 0 :=
      h.permits.of_eq rfl rfl rfl rfl
    exact ⟨permits.lower, tally.lower⟩
  case isFalse => exact h

theorem Balanced.withWaiters (h : p.Balanced) {waiters : List Waiter}
    (quiet : p.pending = 0 → ∀ w : Nat, waiters[w]? = some Waiter.parked →
      p.waiters[w]? = some Waiter.parked) : Balanced { p with waiters := waiters } :=
  ⟨h.permits.of_eq rfl rfl rfl rfl,
    ⟨h.tally.sum, h.tally.lt, h.tally.nodup,
      fun zero w hw => h.tally.quiet zero w (quiet zero w hw)⟩⟩

theorem Balanced.wait (h : p.Balanced) : p.wait.1.Balanced := by
  refine h.withWaiters ?_
  intro zero w hw
  change (p.waiters ++ [if p.pending = 0 then .returned else .parked])[w]? = some .parked at hw
  rw [getElem?_append_singleton, if_pos zero] at hw
  split at hw
  · cases hw
  · exact hw

/-- A waiter may come to stand anywhere, as long as nobody is parked once nothing is pending. -/
theorem Balanced.setWaiter (h : p.Balanced) (id : Nat) (w : Waiter)
    (quiet : p.pending = 0 → w ≠ .parked) :
    Balanced { p with waiters := p.waiters.set id w } := by
  refine h.withWaiters ?_
  intro zero j hj
  rcases getElem?_set_cases hj with ⟨-, same⟩ | ⟨-, before⟩
  · exact absurd same.symm (quiet zero)
  · exact before

theorem look?_eq_some_iff {id : Nat} :
    p.look? id = some p' ↔ p.waiters[id]? = some .woken ∧
      p' = { p with
        waiters := p.waiters.set id (if p.pending = 0 then .returned else .parked) } := by
  unfold look?
  cases h : p.waiters[id]? with
  | none => simp
  | some w => cases w <;> simp [eq_comm]

theorem Balanced.ofLimit (limit : Nat) : (ofLimit limit : Pool β).Balanced := by
  refine ⟨⟨?_, ?_, fun ne => absurd rfl ne, ?_, List.nodup_nil⟩,
    ⟨rfl, ?_, List.nodup_nil, fun _ w => by simp [Pool.ofLimit]⟩⟩
  · show 0 < max 1 limit
    omega
  · simp [Pool.ofLimit, Pool.held]
  · intro j
    simp [Pool.ofLimit, Pool.stage?]
  · intro g hg
    cases hg

end Pool

end ReadThrough
