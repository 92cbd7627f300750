import Mathlib.Logic.Relation
import ReadThrough.Proofs.Pool.Wakes

/-!
# A pool in many hands

The operations of a pool are each done at one go. Those who use a pool at the same time do not work
like that: somebody who counts down to zero does so first and wakes the waiters afterwards, and a
waiter is registered first and looks at the count afterwards. Anything can happen in between. New
work can come, somebody else can count down to zero, and whoever is registered can be woken before
having looked.

A `Yard` is a pool with those who are in the middle of such a thing, and a `Deed` is what happens at
one go. In a run the deeds come in any order, for nobody knows whose turn is next. Jobs are given by
anyone, by jobs that run as well, and a job's work can end in any of the three ways.

What the operations of the pool do is done by deeds in a row (`exists_deeds`), so what holds in every
run of deeds holds of the operations however they follow one another.
-/

set_option autoImplicit false

namespace ReadThrough

/-! ## Deeds -/

/-- What happens to a pool at one go. -/
inductive Yard.Deed (β : Type) where
  /-- A job is given to the pool. -/
  | spawn (work : β)
  /-- A job takes its turn, and begins its work if it has a permit. -/
  | resume (job : Nat)
  /-- The work of a job is over, in one way or another, and its permit goes on. -/
  | finish (job : Nat) (how : Outcome Unit)
  /-- The unit of a job is counted down whose work is over. This ends the job. -/
  | settle (job : Nat)
  | track
  /-- A guard is given back and counted down. -/
  | release (guard : Nat)
  /-- Somebody who has counted down to zero wakes those who are parked. -/
  | rouse
  /-- A new waiter is registered. -/
  | arrive
  /-- A waiter that has been woken is registered once more. -/
  | again (waiter : Nat)
  /-- A waiter that is registered looks at the count, and returns or waits to be woken. -/
  | look (waiter : Nat)
  /-- A waiter stops waiting. -/
  | leave (waiter : Nat)

/-- What is noted of a deed. -/
inductive Yard.Note (β : Type) where
  | spawned (work : β)
  | began (job : Nat)
  | finished (job : Nat) (how : Outcome Unit)
  | ended (job : Nat)
  | tracked (guard : Nat)
  | released (guard : Nat)
  | returned (waiter : Nat)

/-- A pool, and those who are in the middle of something. -/
structure Yard (β : Type) where
  pool : Pool β
  /-- Jobs that have given their permit back and have not been counted down. -/
  leaving : List Nat
  /-- How often somebody has counted down to zero and has not woken anybody yet. -/
  owed : Nat
  /-- Waiters that are registered and have not looked since. -/
  looking : List Nat
  /-- Whoever has been woken and has not had a turn since. -/
  due : List Wake
  /-- What has happened so far, the last first. -/
  log : List (Yard.Note β)

namespace Yard

variable {β : Type}

/-- A pool that nobody uses yet. -/
def ofPool (p : Pool β) : Yard β := ⟨p, [], 0, [], [], []⟩

/-- Counts down one unit; a fall to zero is to be told. -/
def countDown (y : Yard β) : Yard β :=
  { y with
    pool := y.pool.countDown
    owed := if y.pool.pending = 1 then y.owed + 1 else y.owed }

/-- Does a deed. One that is nobody's to do makes no difference. -/
def act (y : Yard β) : Deed β → Yard β
  | .spawn work =>
    { y with
      pool := (y.pool.spawn work).1
      due := y.due ++ (y.pool.spawn work).2
      log := .spawned work :: y.log }
  | .resume job =>
    match y.pool.resume? job with
    | some (starts, p) =>
      { y with
        pool := p
        due := y.due.filter (· ≠ .job job)
        log := if starts then .began job :: y.log else y.log }
    | none => y
  | .finish job how =>
    if y.pool.stage? job = some .running then
      { y with
        pool := (y.pool.setStage job .ended).handOn.1
        leaving := job :: y.leaving
        due := y.due ++ (y.pool.setStage job .ended).handOn.2
        log := .finished job how :: y.log }
    else y
  | .settle job =>
    if job ∈ y.leaving then
      { y.countDown with leaving := y.leaving.erase job, log := .ended job :: y.log }
    else y
  | .track =>
    { y with pool := y.pool.track.1, log := .tracked y.pool.track.2 :: y.log }
  | .release guard =>
    if guard ∈ y.pool.guards then
      { y.countDown with
        pool := { y.countDown.pool with guards := y.pool.guards.erase guard }
        log := .released guard :: y.log }
    else y
  | .rouse =>
    if y.owed = 0 then y
    else
      { y with
        pool := y.pool.rouse.1
        owed := y.owed - 1
        due := y.due ++ y.pool.rouse.2 }
  | .arrive =>
    { y with
      pool := { y.pool with waiters := y.pool.waiters ++ [.parked] }
      looking := y.pool.waiters.length :: y.looking }
  | .again waiter =>
    if y.pool.waiters[waiter]? = some .woken ∧ waiter ∉ y.looking then
      { y with
        pool := { y.pool with waiters := y.pool.waiters.set waiter .parked }
        looking := waiter :: y.looking
        due := y.due.filter (· ≠ .waiter waiter) }
    else y
  | .look waiter =>
    if waiter ∈ y.looking then
      if y.pool.pending = 0 then
        { y with
          pool := { y.pool with waiters := y.pool.waiters.set waiter .returned }
          looking := y.looking.filter (· ≠ waiter)
          due := y.due.filter (· ≠ .waiter waiter)
          log := .returned waiter :: y.log }
      else { y with looking := y.looking.filter (· ≠ waiter) }
    else y
  | .leave waiter =>
    { y with
      pool := y.pool.leave waiter
      looking := y.looking.filter (· ≠ waiter)
      due := y.due.filter (· ≠ .waiter waiter) }

/-- What a deed comes to. -/
inductive Comes (y : Yard β) : Deed β → Yard β → Prop
  | nothing (deed : Deed β) : Comes y deed y
  | spawn (work : β) :
    Comes y (.spawn work)
      { y with
        pool := (y.pool.spawn work).1
        due := y.due ++ (y.pool.spawn work).2
        log := .spawned work :: y.log }
  | resume {job : Nat} {starts : Bool} {p : Pool β}
      (resumed : y.pool.resume? job = some (starts, p)) :
    Comes y (.resume job)
      { y with
        pool := p
        due := y.due.filter (· ≠ .job job)
        log := if starts then .began job :: y.log else y.log }
  | finish {job : Nat} (how : Outcome Unit) (running : y.pool.stage? job = some .running) :
    Comes y (.finish job how)
      { y with
        pool := (y.pool.setStage job .ended).handOn.1
        leaving := job :: y.leaving
        due := y.due ++ (y.pool.setStage job .ended).handOn.2
        log := .finished job how :: y.log }
  | settle {job : Nat} (leaves : job ∈ y.leaving) :
    Comes y (.settle job)
      { y.countDown with leaving := y.leaving.erase job, log := .ended job :: y.log }
  | track :
    Comes y .track { y with pool := y.pool.track.1, log := .tracked y.pool.track.2 :: y.log }
  | release {guard : Nat} (out : guard ∈ y.pool.guards) :
    Comes y (.release guard)
      { y.countDown with
        pool := { y.countDown.pool with guards := y.pool.guards.erase guard }
        log := .released guard :: y.log }
  | rouse (owed : y.owed ≠ 0) :
    Comes y .rouse
      { y with
        pool := y.pool.rouse.1
        owed := y.owed - 1
        due := y.due ++ y.pool.rouse.2 }
  | arrive :
    Comes y .arrive
      { y with
        pool := { y.pool with waiters := y.pool.waiters ++ [.parked] }
        looking := y.pool.waiters.length :: y.looking }
  | again {waiter : Nat} (woken : y.pool.waiters[waiter]? = some .woken)
      (looked : waiter ∉ y.looking) :
    Comes y (.again waiter)
      { y with
        pool := { y.pool with waiters := y.pool.waiters.set waiter .parked }
        looking := waiter :: y.looking
        due := y.due.filter (· ≠ .waiter waiter) }
  | returns {waiter : Nat} (looks : waiter ∈ y.looking) (idle : y.pool.pending = 0) :
    Comes y (.look waiter)
      { y with
        pool := { y.pool with waiters := y.pool.waiters.set waiter .returned }
        looking := y.looking.filter (· ≠ waiter)
        due := y.due.filter (· ≠ .waiter waiter)
        log := .returned waiter :: y.log }
  | parks {waiter : Nat} (looks : waiter ∈ y.looking) (busy : y.pool.pending ≠ 0) :
    Comes y (.look waiter) { y with looking := y.looking.filter (· ≠ waiter) }
  | leave (waiter : Nat) :
    Comes y (.leave waiter)
      { y with
        pool := y.pool.leave waiter
        looking := y.looking.filter (· ≠ waiter)
        due := y.due.filter (· ≠ .waiter waiter) }

theorem comes (y : Yard β) (deed : Deed β) : y.Comes deed (y.act deed) := by
  cases deed with
  | spawn work => exact .spawn work
  | resume job =>
    cases resumed : y.pool.resume? job with
    | none =>
      simp only [act, resumed]
      exact .nothing _
    | some taken =>
      simp only [act, resumed]
      exact .resume resumed
  | finish job how =>
    by_cases running : y.pool.stage? job = some .running
    · rw [act, if_pos running]
      exact .finish how running
    · rw [act, if_neg running]
      exact .nothing _
  | settle job =>
    by_cases leaves : job ∈ y.leaving
    · rw [act, if_pos leaves]
      exact .settle leaves
    · rw [act, if_neg leaves]
      exact .nothing _
  | track => exact .track
  | release guard =>
    by_cases out : guard ∈ y.pool.guards
    · rw [act, if_pos out]
      exact .release out
    · rw [act, if_neg out]
      exact .nothing _
  | rouse =>
    by_cases owed : y.owed = 0
    · rw [act, if_pos owed]
      exact .nothing _
    · rw [act, if_neg owed]
      exact .rouse owed
  | arrive => exact .arrive
  | again waiter =>
    by_cases woken : y.pool.waiters[waiter]? = some .woken ∧ waiter ∉ y.looking
    · rw [act, if_pos woken]
      exact .again woken.1 woken.2
    · rw [act, if_neg woken]
      exact .nothing _
  | look waiter =>
    by_cases looks : waiter ∈ y.looking
    · by_cases idle : y.pool.pending = 0
      · rw [act, if_pos looks, if_pos idle]
        exact .returns looks idle
      · rw [act, if_pos looks, if_neg idle]
        exact .parks looks idle
    · rw [act, if_neg looks]
      exact .nothing _
  | leave waiter => exact .leave waiter

/-- Does deeds one after another. -/
def run (y : Yard β) (deeds : List (Deed β)) : Yard β := deeds.foldl act y

theorem run_append (y : Yard β) (deeds more : List (Deed β)) :
    y.run (deeds ++ more) = (y.run deeds).run more := List.foldl_append

/-- Nobody is in the middle of anything. -/
structure AtRest (y : Yard β) : Prop where
  leaving : y.leaving = []
  owed : y.owed = 0
  looking : y.looking = []

/-- Nobody has anything to do: nobody is in the middle of anything, and whoever has been woken has
had a turn since. -/
structure Still (y : Yard β) : Prop extends y.AtRest where
  due : y.due = []

/-- There is one pool for so many permits to begin with. -/
theorem eq_ofLimit {limit : Nat} {p : Pool β} (made : Pool.create limit = .ok p) :
    p = Pool.ofLimit limit := by
  unfold Pool.create at made
  split at made <;> cases made
  rfl

/-- What every deed keeps holds after any number of them. -/
theorem run_induction {P : Yard β → Prop} (keep : ∀ y deed, P y → P (y.act deed)) {y : Yard β}
    (start : P y) (deeds : List (Deed β)) : P (y.run deeds) := by
  induction deeds generalizing y with
  | nil => exact start
  | cons deed deeds ih => exact ih (keep y deed start)

variable {y : Yard β} {p p' : Pool β}

/-! ## Whoever has something to do is due -/

/-- Jobs and waiters that have something to do have been woken: a job that has not asked for a
permit or has been handed one, and a waiter that has been told of a count of zero. -/
structure Announced (y : Yard β) : Prop where
  job : ∀ (j : Nat) (s : Job.Stage), y.pool.stage? j = some s → s = .spawned ∨ s = .granted →
    Wake.job j ∈ y.due
  waiter : ∀ w : Nat, y.pool.waiters[w]? = some .woken → Wake.waiter w ∈ y.due

/-- What the pool says whom it has woken is noted. -/
theorem Announced.woke {y' : Yard β} {wakes : List Wake} (announced : y.Announced)
    (announces : y.pool.Announces y'.pool wakes) (due : y'.due = y.due ++ wakes) :
    y'.Announced := by
  refine ⟨fun j s at_ ready => ?_, fun w woken => ?_⟩
  · rw [due, List.mem_append]
    obtain ⟨x, here, rfl⟩ := Pool.stage?_eq_some at_
    rcases announces.job j x here with same | queued | ended | ⟨-, woken⟩
    · refine Or.inl (announced.job j x.stage ?_ ready)
      rw [Pool.stage?, same, Option.map_some]
    · rw [queued] at ready
      rcases ready with ready | ready <;> cases ready
    · rw [ended] at ready
      rcases ready with ready | ready <;> cases ready
    · exact Or.inr woken
  · rw [due, List.mem_append]
    exact (announces.waiter w woken).imp_left (announced.waiter w)

/-- A waiter that does not stand there woken need not be due. -/
theorem Announced.served {y' : Yard β} {waiter : Nat} (announced : y.Announced)
    (announces : y.pool.Announces y'.pool [])
    (served : y'.pool.waiters[waiter]? ≠ some .woken)
    (due : y'.due = y.due.filter (· ≠ .waiter waiter)) : y'.Announced := by
  obtain ⟨job, woken⟩ : Announced { y' with due := y.due } :=
    announced.woke announces (List.append_nil _).symm
  refine ⟨fun j s at_ ready => ?_, fun w at_ => ?_⟩
  · rw [due, List.mem_filter]
    exact ⟨job j s at_ ready, by simp⟩
  · have other : w ≠ waiter := fun same => served (same ▸ at_)
    rw [due, List.mem_filter]
    exact ⟨woken w at_, by simpa using other⟩

/-- A job that has had its turn waits in the queue or runs, and need not be due. -/
theorem Announced.resumed {job : Nat} {starts : Bool} (announced : y.Announced)
    (resumed : y.pool.resume? job = some (starts, p)) (log : List (Note β)) :
    Announced { y with pool := p, due := y.due.filter (· ≠ .job job), log := log } := by
  obtain ⟨jobs, waiters, -⟩ := Pool.resume?_cases resumed
  refine ⟨fun j s at_ ready => ?_, fun w woken => ?_⟩
  · rw [Pool.stage?, jobs, ← Pool.stage?, Pool.stage?_setStage] at at_
    split at at_
    case isTrue same =>
      -- Neither the queue nor a permit makes it ready.
      obtain ⟨-, -, rfl⟩ := Option.map_eq_some_iff.1 at_
      cases starts <;> rcases ready with ready | ready <;> cases ready
    case isFalse other =>
      rw [List.mem_filter]
      exact ⟨announced.job j s at_ ready, by simpa using Ne.symm other⟩
  · rw [waiters] at woken
    rw [List.mem_filter]
    exact ⟨announced.waiter w woken, by simp⟩

theorem Announced.comes {y' : Yard β} {deed : Deed β} (announced : y.Announced)
    (comes : y.Comes deed y') : y'.Announced := by
  cases comes with
  | nothing => exact announced
  | spawn work => exact announced.woke (.spawn y.pool work) rfl
  | resume resumed => exact announced.resumed resumed _
  | @finish job how running =>
    have ended : y.pool.Announces (y.pool.setStage job .ended) [] :=
      .setStage y.pool job (Or.inr (Or.inl rfl))
    exact announced.woke (ended.trans (.handOn _)) rfl
  | settle | track | release => exact announced.woke (.of_eq rfl rfl) (List.append_nil _).symm
  | rouse => exact announced.woke (.rouse y.pool) rfl
  | arrive =>
    refine announced.woke ⟨fun _ _ same => Or.inl same, fun w woken => ?_⟩ (List.append_nil _).symm
    rw [getElem?_append_singleton] at woken
    split at woken
    case isTrue => cases woken
    case isFalse => exact Or.inl woken
  | @again waiter | @returns waiter | leave waiter =>
    refine announced.served (.setWaiter y.pool waiter nofun) ?_ rfl
    intro woken
    rcases getElem?_set_cases woken with ⟨-, same⟩ | ⟨other, -⟩
    · cases same
    · exact other rfl
  | parks => exact ⟨announced.job, announced.waiter⟩

theorem announced_run (limit : Nat) (deeds : List (Deed β)) :
    ((ofPool (Pool.ofLimit limit)).run deeds).Announced := by
  refine run_induction (fun y deed announced => announced.comes (y.comes deed)) ⟨?_, ?_⟩ deeds
  · intro j s at_
    simp [ofPool, Pool.ofLimit, Pool.stage?] at at_
  · intro w woken
    simp [ofPool, Pool.ofLimit] at woken

/-! ## The operations of the pool -/

/-- Where one unit of a pool has been counted down, waking those who are parked is all that is left
to do, if there is anything. -/
theorem exists_rouse (counted : y.pool = p.countDown)
    (owed : y.owed = if p.pending = 1 then 1 else 0) (leaving : y.leaving = [])
    (looking : y.looking = []) :
    ∃ deeds, (y.run deeds).AtRest ∧ (y.run deeds).pool = p.lower.1 := by
  rw [Pool.lower_eq]
  by_cases one : p.pending = 1
  · rw [if_pos one] at owed ⊢
    have some_owed : y.owed ≠ 0 := by omega
    have paid : y.owed - 1 = 0 := by omega
    refine ⟨[.rouse], ?_, ?_⟩
    · simp only [run, List.foldl_cons, List.foldl_nil, act, if_neg some_owed]
      exact ⟨leaving, paid, looking⟩
    · simp only [run, List.foldl_cons, List.foldl_nil, act, if_neg some_owed, counted]
  · rw [if_neg one] at owed ⊢
    exact ⟨[], ⟨leaving, owed, looking⟩, counted⟩

/-- What an operation of the pool does is done by deeds, if nobody is in the middle of anything; and
then nobody is so again. -/
theorem exists_deeds (rest : y.AtRest) (move : y.pool.Move p') :
    ∃ deeds, (y.run deeds).AtRest ∧ (y.run deeds).pool = p' := by
  obtain ⟨leaving, owed, looking⟩ := rest
  cases move with
  | spawn work => exact ⟨[.spawn work], ⟨leaving, owed, looking⟩, rfl⟩
  | resume id starts p' resumed =>
    refine ⟨[.resume id], ?_, ?_⟩ <;>
      simp only [run, List.foldl_cons, List.foldl_nil, act, resumed]
    exact ⟨leaving, owed, looking⟩
  | finish id p' wakes finished =>
    obtain ⟨running, rfl, -⟩ := Pool.finish?_eq_some_iff.1 finished
    -- The permit goes on, then the unit is counted down.
    have finished : (y.run [.finish id (.ok ()), .settle id]).pool =
          (y.pool.setStage id .ended).handOn.1.countDown ∧
        (y.run [.finish id (.ok ()), .settle id]).owed =
          (if (y.pool.setStage id .ended).handOn.1.pending = 1 then 1 else 0) ∧
        (y.run [.finish id (.ok ()), .settle id]).leaving = [] ∧
        (y.run [.finish id (.ok ()), .settle id]).looking = [] := by
      simp [run, act, running, countDown, leaving, owed, looking]
    obtain ⟨counted, owed, leaving, looking⟩ := finished
    obtain ⟨deeds, rest, pool⟩ := exists_rouse counted owed leaving looking
    exact ⟨[.finish id (.ok ()), .settle id] ++ deeds, by rwa [run_append], by rwa [run_append]⟩
  | track => exact ⟨[.track], ⟨leaving, owed, looking⟩, rfl⟩
  | giveBack guard =>
    unfold Pool.giveBack
    split
    case isTrue out =>
      have released : (y.run [.release guard]).pool =
            Pool.countDown { y.pool with guards := y.pool.guards.erase guard } ∧
          (y.run [.release guard]).owed = (if y.pool.pending = 1 then 1 else 0) ∧
          (y.run [.release guard]).leaving = [] ∧ (y.run [.release guard]).looking = [] := by
        simp [run, act, out, countDown, Pool.countDown, leaving, owed, looking]
      obtain ⟨counted, owed, leaving, looking⟩ := released
      obtain ⟨deeds, rest, pool⟩ := exists_rouse counted owed leaving looking
      exact ⟨[.release guard] ++ deeds, by rwa [run_append], by rwa [run_append]⟩
    case isFalse => exact ⟨[], ⟨leaving, owed, looking⟩, rfl⟩
  | wait =>
    refine ⟨[.arrive, .look y.pool.waiters.length], ?_, ?_⟩
    · by_cases idle : y.pool.pending = 0 <;>
        simp only [run, List.foldl_cons, List.foldl_nil, act, List.mem_cons, true_or, if_true, idle,
          if_false] <;>
        exact ⟨leaving, owed, by simp [looking]⟩
    · by_cases idle : y.pool.pending = 0 <;> simp [run, act, Pool.wait, idle]
  | look id p' looked =>
    obtain ⟨woken, rfl⟩ := Pool.look?_eq_some_iff.1 looked
    refine ⟨[.again id, .look id], ?_, ?_⟩
    · by_cases idle : y.pool.pending = 0 <;>
        simp only [run, List.foldl_cons, List.foldl_nil, act, woken, looking, List.not_mem_nil,
          not_false_eq_true, and_self, List.mem_cons, true_or, if_true, idle, if_false] <;>
        exact ⟨leaving, owed, by simp⟩
    · by_cases idle : y.pool.pending = 0 <;> simp [run, act, woken, looking, idle]
  | leave id =>
    refine ⟨[.leave id], ⟨leaving, owed, ?_⟩, rfl⟩
    simp [run, act, looking]

/-- Whatever the operations of a pool have made of it, deeds can make of it. -/
theorem exists_deeds_of_moves (rest : y.AtRest) (moves : Relation.ReflTransGen Pool.Move y.pool p') :
    ∃ deeds, (y.run deeds).AtRest ∧ (y.run deeds).pool = p' := by
  induction moves with
  | refl => exact ⟨[], rest, rfl⟩
  | tail _ move ih =>
    obtain ⟨deeds, rest, rfl⟩ := ih
    obtain ⟨more, rest, pool⟩ := exists_deeds rest move
    exact ⟨deeds ++ more, by rwa [run_append], by rwa [run_append]⟩

end Yard

end ReadThrough
