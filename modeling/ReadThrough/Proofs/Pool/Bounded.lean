import ReadThrough.Proofs.Pool.Yard

/-!
# No more jobs than permits, and none forgotten

The permit, the unit of pending work and the work itself last differently long for one job: the unit
from the moment the job is given to the pool, the permit from the moment it is handed to the job, and
both are given back by whatever ends the work. The books of a yard (`Books`) say where each of them
is in every state, against what has been noted so far. No deed puts them out, and how the work of a
job has ended is not in them.

They leave open whether a job that could run will be told so. That is a promise on wakes: whoever
has been handed a permit, or has not asked for one, is due (`Announced`).
-/

set_option autoImplicit false

namespace ReadThrough

/-- The work has begun. -/
def Job.Stage.hasBegun : Job.Stage → Bool
  | .running | .ended => true
  | _ => false

namespace Yard.Note

variable {β : Type}

/-- The work that has been given to the pool. -/
def work? : Note β → Option β
  | .spawned work => some work
  | _ => none

/-- The work of this job has begun. -/
def begins (job : Nat) : Note β → Bool
  | .began j => j = job
  | _ => false

def isEnd : Note β → Bool
  | .ended _ => true
  | _ => false

def isTrack : Note β → Bool
  | .tracked _ => true
  | _ => false

def isRelease : Note β → Bool
  | .released _ => true
  | _ => false

end Yard.Note

namespace Pool

variable {β : Type} {p q : Pool β}

/-- How many jobs are at work. -/
def running (p : Pool β) : Nat := p.jobs.countP (·.stage = .running)

/-! ## What a permit that comes back changes -/

theorem map_work_setStage (p : Pool β) (id : Nat) (s : Job.Stage) :
    (p.setStage id s).jobs.map (·.work) = p.jobs.map (·.work) := by
  apply List.ext_getElem?
  intro j
  rw [List.getElem?_map, List.getElem?_map, getElem?_setStage, Option.map_map]
  congr 1
  funext x
  simp only [Function.comp_apply]
  split <;> rfl

@[simp] theorem map_work_handOn (p : Pool β) :
    p.handOn.1.jobs.map (·.work) = p.jobs.map (·.work) := by
  unfold handOn
  split
  · rfl
  · exact map_work_setStage p _ .granted

theorem unfinished_handOn (queued : ∀ j ∈ p.queue, p.stage? j = some .queued) :
    p.handOn.1.unfinished = p.unfinished := by
  unfold handOn
  cases hq : p.queue with
  | nil => rfl
  | cons next rest =>
    have same := unfinished_setStage (queued next (by rw [hq]; simp)) .granted
    simp only [Job.Stage.isAlive, Bool.toNat_true] at same
    show (p.setStage next .granted).unfinished = p.unfinished
    omega

theorem stage?_handOn (p : Pool β) (j : Nat) :
    p.handOn.1.stage? j =
      if p.queue.head? = some j then (p.stage? j).map fun _ => .granted else p.stage? j := by
  unfold handOn
  cases hq : p.queue with
  | nil => rfl
  | cons next rest =>
    show (p.setStage next .granted).stage? j = _
    rw [stage?_setStage, List.head?_cons]
    by_cases at_ : next = j
    · subst at_
      rw [if_pos rfl, if_pos rfl]
    · rw [if_neg at_, if_neg (by simpa using at_)]

/-- The job that is handed the permit has not begun and does not begin yet. -/
theorem hasBegun_handOn (queued : ∀ j ∈ p.queue, p.stage? j = some .queued) (j : Nat) :
    (p.handOn.1.stage? j).any Job.Stage.hasBegun = (p.stage? j).any Job.Stage.hasBegun := by
  rw [stage?_handOn]
  split
  case isTrue first =>
    rw [queued j (List.mem_of_mem_head? first)]
    rfl
  case isFalse => rfl

theorem stage?_spawn (p : Pool β) (work : β) (j : Nat) :
    (p.spawn work).1.stage? j = if j = p.jobs.length then some .spawned else p.stage? j := by
  unfold stage?
  rw [getElem?_spawn]
  split <;> rfl

/-! ## How many are at work -/

theorem running_setStage {id : Nat} {s : Job.Stage} (h : p.stage? id = some s) (s' : Job.Stage) :
    (p.setStage id s').running + (decide (s = .running)).toNat =
      p.running + (decide (s' = .running)).toNat := by
  obtain ⟨j, hj, rfl⟩ := stage?_eq_some h
  exact countP_modify hj (fun j => { j with stage := s' }) (·.stage = .running)

theorem running_handOn (queued : ∀ j ∈ p.queue, p.stage? j = some .queued) :
    p.handOn.1.running = p.running := by
  unfold handOn
  cases hq : p.queue with
  | nil => rfl
  | cons next rest =>
    have same := running_setStage (queued next (by rw [hq]; simp)) .granted
    show (p.setStage next .granted).running = p.running
    simpa using same

/-- Whoever is at work has a permit. -/
theorem running_le_held (p : Pool β) : p.running ≤ p.held := by
  refine List.countP_mono_left fun j _ at_work => ?_
  simp only [decide_eq_true_eq] at at_work
  rw [at_work]
  rfl

/-- A permit is with a job that is at work, unless a job has been handed one and has not run. -/
theorem running_eq_held (none_granted : ∀ j, p.stage? j ≠ some .granted) : p.running = p.held := by
  refine List.countP_congr fun j there => ?_
  obtain ⟨i, at_⟩ := List.getElem?_of_mem there
  have not_granted := none_granted i
  rw [stage?, at_, Option.map_some] at not_granted
  cases stage : j.stage <;> simp [Job.Stage.holds, stage] at not_granted ⊢

end Pool

/-! ## The books -/

namespace Yard

variable {β : Type} {limit : Nat} {y : Yard β}

/-- Where the permits, the units and the jobs of a yard are, against what has been noted. -/
structure Books (limit : Nat) (y : Yard β) : Prop where
  limit : y.pool.limit = max 1 limit
  permits : y.pool.Permits 0
  /-- A unit is out for each guard and for each job that has not been counted down. -/
  units : y.pool.pending = y.pool.guards.length + y.pool.unfinished + y.leaving.length
  works : y.pool.jobs.map (·.work) = (y.log.filterMap Note.work?).reverse
  begun : ∀ j, y.log.countP (·.begins j) = ((y.pool.stage? j).any Job.Stage.hasBegun).toNat
  ended : y.pool.unfinished + y.leaving.length + y.log.countP Note.isEnd = y.pool.jobs.length
  tracked : y.log.countP Note.isTrack = y.pool.guards.length + y.log.countP Note.isRelease

/-- A note that is not of a job or a guard. -/
theorem Books.of_waiters (books : Books limit y) {waiters : List Waiter} {owed : Nat}
    {looking : List Nat} {due : List Wake} :
    Books limit ⟨{ y.pool with waiters := waiters }, y.leaving, owed, looking, due, y.log⟩ := by
  obtain ⟨limit, permits, units, works, begun, ended, tracked⟩ := books
  exact ⟨limit, permits.of_eq rfl rfl rfl rfl, units, works, begun, ended, tracked⟩

theorem Books.returned (books : Books limit y) (waiter : Nat) :
    Books limit { y with log := .returned waiter :: y.log } := by
  obtain ⟨limit, permits, units, works, begun, ended, tracked⟩ := books
  exact ⟨limit, permits, units, works, begun, ended, tracked⟩

theorem Books.spawn (books : Books limit y) (work : β) (due : List Wake) :
    Books limit { y with
      pool := (y.pool.spawn work).1, due := due, log := .spawned work :: y.log } := by
  obtain ⟨limit, permits, units, works, begun, ended, tracked⟩ := books
  have more := y.pool.unfinished_spawn work
  refine ⟨limit, permits.spawn work, ?_, ?_, ?_, ?_, tracked⟩
  · show y.pool.pending + 1 = y.pool.guards.length + (y.pool.spawn work).1.unfinished + y.leaving.length
    omega
  · simp [Pool.spawn, works, Note.work?]
  · intro j
    show (_ :: y.log).countP _ = (((y.pool.spawn work).1.stage? j).any _).toNat
    have before := begun j
    rw [Pool.stage?_spawn]
    split
    case isTrue new =>
      -- Nothing has been noted of a job that was not there.
      rw [new, Pool.stage?, List.getElem?_eq_none (Nat.le_refl _)] at before
      simpa [Note.begins, Job.Stage.hasBegun, new] using before
    case isFalse => simpa [Note.begins] using before
  · have longer : (y.pool.spawn work).1.jobs.length = y.pool.jobs.length + 1 := by simp [Pool.spawn]
    show (y.pool.spawn work).1.unfinished + y.leaving.length + y.log.countP Note.isEnd =
      (y.pool.spawn work).1.jobs.length
    omega

/-- A job takes its turn. -/
theorem Books.resume (books : Books limit y) {job : Nat} {starts : Bool} {p : Pool β}
    (resumed : y.pool.resume? job = some (starts, p)) (due : List Wake) :
    Books limit { y with
      pool := p, due := due, log := if starts then .began job :: y.log else y.log } := by
  obtain ⟨limit, permits, units, works, begun, ended, tracked⟩ := books
  obtain ⟨jobs, -, guards, limit_, stage⟩ := Pool.resume?_cases resumed
  have pending := Pool.pending_resume? resumed
  -- Before its turn the job had not begun, and after it the job still has to end.
  obtain ⟨before, at_, fresh, alive⟩ : ∃ s, y.pool.stage? job = some s ∧ s.hasBegun = false ∧
      s.isAlive = true := by
    rcases stage with spawned | granted
    · exact ⟨.spawned, spawned, rfl, rfl⟩
    · exact ⟨.granted, granted, rfl, rfl⟩
  have unfinished : p.unfinished = y.pool.unfinished := by
    have moved := Pool.unfinished_setStage at_ (if starts then .running else .queued)
    have still : Job.Stage.isAlive (if starts then .running else .queued) = true := by
      cases starts <;> rfl
    rw [alive, still] at moved
    rw [Pool.unfinished, jobs]
    exact Nat.add_right_cancel moved
  have works_ : p.jobs.map (·.work) = y.pool.jobs.map (·.work) := by
    rw [jobs, Pool.map_work_setStage]
  have length := congrArg List.length works_
  rw [List.length_map, List.length_map] at length
  have stages : ∀ j, p.stage? j =
      if job = j then some (if starts then .running else .queued) else y.pool.stage? j := by
    intro j
    rw [Pool.stage?, jobs, ← Pool.stage?, Pool.stage?_setStage, at_, Option.map_some]
  refine ⟨limit_.trans limit, permits.resume? resumed, ?_, ?_, ?_, ?_, ?_⟩
  · show p.pending = p.guards.length + p.unfinished + y.leaving.length
    rw [pending, guards, unfinished]
    exact units
  · show p.jobs.map (·.work) = _
    rw [works_, works]
    cases starts <;> rfl
  · intro j
    have counted := begun j
    show _ = ((p.stage? j).any Job.Stage.hasBegun).toNat
    rw [stages]
    by_cases same : job = j
    · subst same
      rw [at_, Option.any_some, fresh] at counted
      cases starts with
      | true => simpa [Note.begins, Job.Stage.hasBegun] using counted
      | false => simpa [Job.Stage.hasBegun] using counted
    · rw [if_neg same, ← counted]
      cases starts with
      | true => simp [Note.begins, same]
      | false => rfl
  · show p.unfinished + y.leaving.length + _ = p.jobs.length
    rw [unfinished, length, ← ended]
    cases starts <;> rfl
  · show _ = p.guards.length + _
    rw [guards]
    cases starts <;> exact tracked

/-- The work of a job is over. Its permit is in hand, and goes on. -/
theorem Books.finish (books : Books limit y) {job : Nat} (running : y.pool.stage? job = some .running)
    (how : Outcome Unit) (due : List Wake) :
    Books limit { y with
      pool := (y.pool.setStage job .ended).handOn.1
      leaving := job :: y.leaving
      due := due
      log := .finished job how :: y.log } := by
  obtain ⟨limit, permits, units, works, begun, ended, tracked⟩ := books
  have inHand : (y.pool.setStage job .ended).Permits 1 :=
    permits.setStage running (by simp) (by simp) rfl
  have fewer := Pool.unfinished_setStage running .ended
  simp only [Job.Stage.isAlive, Bool.toNat_false, Bool.toNat_true] at fewer
  have unfinished := Pool.unfinished_handOn fun j => (inHand.queued j).1
  have works_ : (y.pool.setStage job .ended).handOn.1.jobs.map (·.work) =
      y.pool.jobs.map (·.work) := by
    rw [Pool.map_work_handOn, Pool.map_work_setStage]
  have length := congrArg List.length works_
  rw [List.length_map, List.length_map] at length
  refine ⟨?_, inHand.handOn, ?_, ?_, ?_, ?_, ?_⟩
  · exact (Pool.limit_handOn _).trans limit
  · show (y.pool.setStage job .ended).handOn.1.pending =
      (y.pool.setStage job .ended).handOn.1.guards.length +
        (y.pool.setStage job .ended).handOn.1.unfinished + (y.leaving.length + 1)
    rw [Pool.pending_handOn, Pool.guards_handOn, unfinished]
    show y.pool.pending = y.pool.guards.length + _ + _
    omega
  · exact works_.trans works
  · intro j
    show y.log.countP _ = (((y.pool.setStage job .ended).handOn.1.stage? j).any _).toNat
    rw [begun, Pool.hasBegun_handOn fun j => (inHand.queued j).1, Pool.stage?_setStage]
    split
    case isTrue same =>
      rw [← same, running]
      rfl
    case isFalse => rfl
  · show (y.pool.setStage job .ended).handOn.1.unfinished + (y.leaving.length + 1) +
      y.log.countP Note.isEnd = (y.pool.setStage job .ended).handOn.1.jobs.length
    omega
  · show y.log.countP Note.isTrack = (y.pool.setStage job .ended).handOn.1.guards.length + _
    rw [Pool.guards_handOn]
    exact tracked

/-- A unit is counted down that has been given up. -/
theorem Books.countDown (guards leaving : List Nat) (log : List (Note β))
    (limit_ : y.pool.limit = max 1 limit) (permits : y.pool.Permits 0)
    (units : y.pool.pending = guards.length + y.pool.unfinished + leaving.length + 1)
    (works : y.pool.jobs.map (·.work) = (log.filterMap Note.work?).reverse)
    (begun : ∀ j, log.countP (·.begins j) = ((y.pool.stage? j).any Job.Stage.hasBegun).toNat)
    (ended : y.pool.unfinished + leaving.length + log.countP Note.isEnd = y.pool.jobs.length)
    (tracked : log.countP Note.isTrack = guards.length + log.countP Note.isRelease) :
    Books limit { y.countDown with
      pool := { y.countDown.pool with guards := guards }, leaving := leaving, log := log } := by
  refine ⟨limit_, permits.of_eq rfl rfl rfl rfl, ?_, works, begun, ended, tracked⟩
  show y.pool.pending - 1 = guards.length + y.pool.unfinished + leaving.length
  omega

theorem Books.settle (books : Books limit y) {job : Nat} (leaves : job ∈ y.leaving) :
    Books limit
      { y.countDown with leaving := y.leaving.erase job, log := .ended job :: y.log } := by
  obtain ⟨limit, permits, units, works, begun, ended, tracked⟩ := books
  have fewer := List.length_erase_of_mem leaves
  have some_leave : 0 < y.leaving.length := List.length_pos_of_mem leaves
  refine .countDown y.pool.guards _ _ limit permits (by omega) works begun ?_ tracked
  show y.pool.unfinished + (y.leaving.erase job).length + (_ :: y.log).countP Note.isEnd = _
  rw [List.countP_cons_of_pos rfl]
  omega

theorem Books.release (books : Books limit y) {guard : Nat} (out : guard ∈ y.pool.guards) :
    Books limit
      { y.countDown with
        pool := { y.countDown.pool with guards := y.pool.guards.erase guard }
        log := .released guard :: y.log } := by
  obtain ⟨limit, permits, units, works, begun, ended, tracked⟩ := books
  have fewer := List.length_erase_of_mem out
  have some_out : 0 < y.pool.guards.length := List.length_pos_of_mem out
  refine .countDown _ y.leaving _ limit permits (by omega) works begun ended ?_
  show y.log.countP Note.isTrack =
    (y.pool.guards.erase guard).length + (_ :: y.log).countP Note.isRelease
  rw [List.countP_cons_of_pos rfl]
  omega

theorem Books.track (books : Books limit y) :
    Books limit { y with
      pool := y.pool.track.1, log := .tracked y.pool.track.2 :: y.log } := by
  obtain ⟨limit, permits, units, works, begun, ended, tracked⟩ := books
  refine ⟨limit, permits.of_eq rfl rfl rfl rfl, ?_, works, begun, ended, ?_⟩
  · show y.pool.pending + 1 = (y.pool.guards.length + 1) + y.pool.unfinished + y.leaving.length
    omega
  · show (_ :: y.log).countP Note.isTrack =
      (y.pool.guards.length + 1) + y.log.countP Note.isRelease
    rw [List.countP_cons_of_pos rfl]
    omega

/-- No deed puts the books out. -/
theorem Books.comes {y' : Yard β} {deed : Deed β} (books : Books limit y) (comes : y.Comes deed y') :
    Books limit y' := by
  cases comes with
  | nothing => exact books
  | spawn work => exact books.spawn work _
  | resume resumed => exact books.resume resumed _
  | finish how running => exact books.finish running how _
  | settle leaves => exact books.settle leaves
  | track => exact books.track
  | release out => exact books.release out
  | rouse | arrive | again | parks | leave => exact books.of_waiters
  | returns => exact books.of_waiters.returned _

theorem books_start (limit : Nat) : Books limit (ofPool (Pool.ofLimit limit : Pool β)) := by
  have balanced : (Pool.ofLimit limit : Pool β).Balanced := .ofLimit limit
  refine ⟨rfl, balanced.permits, ?_, rfl, fun j => ?_, rfl, rfl⟩
  · simp [ofPool, Pool.ofLimit, Pool.unfinished]
  · simp [ofPool, Pool.ofLimit, Pool.stage?]

theorem books_run (limit : Nat) (deeds : List (Deed β)) :
    Books limit ((ofPool (Pool.ofLimit limit)).run deeds) :=
  run_induction (fun y deed books => books.comes (y.comes deed)) (books_start limit) deeds

/-! ## What the books come to -/

/-- What holds of a pool with so many permits, in every state. -/
structure Bounded (limit : Nat) (y : Yard β) : Prop where
  /-- No more jobs are at work than there are permits; one permit there always is. -/
  atMost : y.pool.running ≤ max 1 limit
  /-- The jobs are those that have been given to the pool, in their order. -/
  kept : y.pool.jobs.map (·.work) = (y.log.filterMap Note.work?).reverse
  /-- The work of a job is begun once, and has been begun if it is over. -/
  once : ∀ j, y.log.countP (·.begins j) = if (y.pool.stage? j).any Job.Stage.hasBegun then 1 else 0
  /-- Work that has not begun waits for a permit, or its job is due to take a turn. -/
  waits : ∀ (j : Nat) (s : Job.Stage), y.pool.stage? j = some s → s.hasBegun = false →
    j ∈ y.pool.queue ∨ Wake.job j ∈ y.due
  /-- What is pending is the guards that are out and the jobs that have not ended: -/
  pending : y.pool.pending = y.pool.guards.length + y.pool.unfinished + y.leaving.length
  /-- what has been given to the pool and tracked, less what has ended and been released. -/
  counted : y.pool.pending + y.log.countP Note.isEnd + y.log.countP Note.isRelease =
    (y.log.filterMap Note.work?).length + y.log.countP Note.isTrack
  /-- If nobody has anything to do and work has not begun, then all permits are at work. -/
  busy : y.Still → ∀ (j : Nat) (s : Job.Stage), y.pool.stage? j = some s → s.hasBegun = false →
    y.pool.running = max 1 limit
  /-- However the work of a job ends, the job gives back its unit and its permit, which goes to the
  first in the queue. -/
  back : ∀ job how, y.pool.stage? job = some .running → ∀ y',
    y' = (y.act (.finish job how)).act (.settle job) →
    y'.pool.stage? job = some .ended ∧ y'.pool.pending + 1 = y.pool.pending ∧
      y'.pool.running + 1 = y.pool.running ∧
      (y.pool.queue = [] → y'.pool.free = y.pool.free + 1) ∧
      ∀ next rest, y.pool.queue = next :: rest →
        y'.pool.queue = rest ∧ y'.pool.stage? next = some .granted ∧ Wake.job next ∈ y'.due

variable {job : Nat} {how : Outcome Unit}

/-- The two deeds that end a job, one after the other. -/
theorem settle_finish (how : Outcome Unit) (running : y.pool.stage? job = some .running) :
    ((y.act (.finish job how)).act (.settle job)).pool =
        (y.pool.setStage job .ended).handOn.1.countDown ∧
      ((y.act (.finish job how)).act (.settle job)).due =
        y.due ++ (y.pool.setStage job .ended).handOn.2 := by
  simp [act, running, countDown]

theorem Books.back (books : Books limit y) (running : y.pool.stage? job = some .running) {y' : Yard β}
    (ends : y' = (y.act (.finish job how)).act (.settle job)) :
    y'.pool.stage? job = some .ended ∧ y'.pool.pending + 1 = y.pool.pending ∧
      y'.pool.running + 1 = y.pool.running ∧
      (y.pool.queue = [] → y'.pool.free = y.pool.free + 1) ∧
      ∀ next rest, y.pool.queue = next :: rest →
        y'.pool.queue = rest ∧ y'.pool.stage? next = some .granted ∧ Wake.job next ∈ y'.due := by
  obtain ⟨pool, due⟩ := settle_finish how running
  rw [← ends] at pool due
  have inHand : (y.pool.setStage job .ended).Permits 1 :=
    books.permits.setStage running (by simp) (by simp) rfl
  have queued : ∀ j ∈ (y.pool.setStage job .ended).queue,
      (y.pool.setStage job .ended).stage? j = some .queued := fun j => (inHand.queued j).1
  have ended : (y.pool.setStage job .ended).stage? job = some .ended := by
    rw [Pool.stage?_setStage, if_pos rfl, running, Option.map_some]
  rw [pool, due]
  refine ⟨?_, ?_, ?_, ?_, ?_⟩
  · show (y.pool.setStage job .ended).handOn.1.stage? job = some .ended
    rw [Pool.stage?_handOn, if_neg, ended]
    -- The first in the queue is another job.
    intro first
    have waits := queued job (List.mem_of_mem_head? first)
    rw [ended] at waits
    cases waits
  · show (y.pool.setStage job .ended).handOn.1.pending - 1 + 1 = y.pool.pending
    rw [Pool.pending_handOn]
    show y.pool.pending - 1 + 1 = y.pool.pending
    have fewer := Pool.unfinished_setStage running .ended
    have units := books.units
    simp only [Job.Stage.isAlive, Bool.toNat_false, Bool.toNat_true] at fewer
    omega
  · show (y.pool.setStage job .ended).handOn.1.running + 1 = y.pool.running
    rw [Pool.running_handOn queued]
    simpa using Pool.running_setStage running .ended
  · intro empty
    have free : (y.pool.setStage job .ended).handOn.1.free = y.pool.free + 1 := by
      rw [Pool.handOn, show (y.pool.setStage job .ended).queue = [] from empty]
      rfl
    exact free
  · intro next rest some_wait
    have granted : (y.pool.setStage job .ended).handOn =
        ({ (y.pool.setStage job .ended).setStage next .granted with queue := rest }, [.job next]) := by
      rw [Pool.handOn, show (y.pool.setStage job .ended).queue = next :: rest from some_wait]
    have waits : (y.pool.setStage job .ended).stage? next = some .queued :=
      queued next (by rw [show (y.pool.setStage job .ended).queue = _ from some_wait]; simp)
    rw [granted]
    refine ⟨rfl, ?_, by simp⟩
    show ((y.pool.setStage job .ended).setStage next .granted).stage? next = some .granted
    rw [Pool.stage?_setStage, if_pos rfl, waits, Option.map_some]

/-- Work that has not begun waits for a permit, or its job is due. -/
theorem Books.waits (books : Books limit y) (announced : y.Announced) {j : Nat} {s : Job.Stage}
    (at_ : y.pool.stage? j = some s) (unbegun : s.hasBegun = false) :
    j ∈ y.pool.queue ∨ Wake.job j ∈ y.due := by
  cases s with
  | spawned => exact Or.inr (announced.job j .spawned at_ (Or.inl rfl))
  | granted => exact Or.inr (announced.job j .granted at_ (Or.inr rfl))
  | queued => exact Or.inl ((books.permits.queued j).2 at_)
  | running | ended => cases unbegun

/-- If no job is due and one waits for a permit, then all permits are at work. -/
theorem Books.busy (books : Books limit y) (announced : y.Announced) (still : y.Still) {j : Nat}
    {s : Job.Stage} (at_ : y.pool.stage? j = some s) (unbegun : s.hasBegun = false) :
    y.pool.running = max 1 limit := by
  have none_due : ∀ wake, wake ∉ y.due := by simp [still.due]
  have waits : j ∈ y.pool.queue :=
    (books.waits announced at_ unbegun).resolve_right (none_due _)
  have none_granted : ∀ j, y.pool.stage? j ≠ some .granted := fun j granted =>
    none_due _ (announced.job j .granted granted (Or.inr rfl))
  have none_free := books.permits.full (List.ne_nil_of_mem waits)
  have sum := books.permits.sum
  have limit := books.limit
  rw [Pool.running_eq_held none_granted]
  omega

/-- A pool of so many permits keeps to them, whoever does what in it, and forgets no job; and the
operations of the pool do nothing else than what is done there. -/
theorem bounded (limit : Nat) (p : Pool β) (made : Pool.create limit = .ok p) :
    (∀ deeds, Bounded limit ((ofPool p).run deeds)) ∧
      ∀ p', Relation.ReflTransGen Pool.Move p p' →
        ∃ deeds, ((ofPool p).run deeds).AtRest ∧ ((ofPool p).run deeds).pool = p' := by
  obtain rfl := eq_ofLimit made
  refine ⟨fun deeds => ?_, fun p' moves => exists_deeds_of_moves ⟨rfl, rfl, rfl⟩ moves⟩
  have books := books_run limit deeds
  have announced := announced_run limit deeds
  refine ⟨?_, books.works, ?_, fun j s => books.waits announced, books.units, ?_,
    fun still j s => books.busy announced still, fun job how running y' => books.back running⟩
  · have sum := books.permits.sum
    have some_hold := Pool.running_le_held ((ofPool (Pool.ofLimit limit)).run deeds).pool
    have limit := books.limit
    omega
  · intro j
    rw [books.begun]
    cases (((ofPool (Pool.ofLimit limit)).run deeds).pool.stage? j).any Job.Stage.hasBegun <;> rfl
  · have length := congrArg List.length books.works
    rw [List.length_map, List.length_reverse] at length
    have units := books.units
    have ended := books.ended
    have tracked := books.tracked
    omega

/-- A pool of no permits runs one job at a time. The first of two crashes, and the second takes its
turn. -/
theorem bounded_zero :
    let early : List (Deed String) := [.spawn "a", .spawn "b", .resume 0, .resume 1]
    let late : List (Deed String) := [.finish 0 (.crashed "a"), .settle 0, .resume 1]
    ∃ p : Pool String, Pool.create 0 = .ok p ∧
      ((ofPool p).run early).pool.running ≤ 1 ∧
      ((ofPool p).run (early ++ late)).pool.running ≤ 1 ∧
      ((ofPool p).run (early ++ late)).log.countP (·.begins 1) = 1 := by
  intro early late
  have made : Pool.create 0 = .ok (Pool.ofLimit 0 : Pool String) := rfl
  have keeps := (bounded 0 _ made).1
  refine ⟨Pool.ofLimit 0, made, (keeps early).atMost, (keeps (early ++ late)).atMost, ?_⟩
  rw [(keeps (early ++ late)).once]
  rfl

end Yard

end ReadThrough
