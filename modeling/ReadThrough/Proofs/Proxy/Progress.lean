import ReadThrough.Proofs.Proxy.Errands

/-!
# An errand that is run is of use

Three facts about the errand that an event reports back. The task that needed it does not need it
again (`Step.discharges`), so an errand that has been run may be forgotten. An errand that is
needed is never reported in vain: whatever it brought, the proxy takes a step (`step_of_next?`).
For a fetch the step is one towards its end (`Step.rounds_lt`), and it asks nobody for a permit.
And the other way round, only an errand that is needed brings a task further (`Step.needed`),
unless a limit has passed.

None of this says that errands are run. What is drawn from it is that a proxy for which no errand is
left to run has nothing left to do.
-/

set_option autoImplicit false

namespace ReadThrough

namespace Proxy

variable {ω : Type} {now : Moment} {p p' : Proxy ω}

/-! ## What a task needs, by what it is

`next?` looks the task up and asks its stage. Where the task has been found already, these four
leave the stage to be asked. -/

theorem next?_caller {c : Nat} {x : Caller ω} (at_ : p.callers[c]? = some x) :
    p.next? (.caller c) = p.callerNeeds? c x.stage := by
  rw [next?, at_, Option.bind_some]

theorem next?_fetch {id : Nat} {f : Fetch (Plan ω)} (at_ : p.fetches.fetches[id]? = some f) :
    p.next? (.fetch id) = f.stage.needs? id := by
  rw [next?, at_, Option.bind_some]

theorem next?_job {j : Nat} {x : Job Work} (at_ : p.pool.jobs[j]? = some x) :
    p.next? (.job j) = p.jobNeeds? j x := by
  rw [next?, at_, Option.bind_some]

theorem next?_save {s : Nat} {x : Save} (at_ : p.saves[s]? = some x) :
    p.next? (.save s) = x.stage.needs? s := by
  rw [next?, at_, Option.bind_some]

/-- A caller keeps its request at whatever stage it comes to stand. -/
theorem callers_setStage {c : Nat} {x : Caller ω} (s : Caller.Stage)
    (at_ : p.callers[c]? = some x) : (p.setStage c s).callers[c]? = some ⟨x.request, s⟩ := by
  rw [getElem?_setStage, at_, Option.map_some, if_pos rfl]

theorem stage?_eq_some_iff {c : Nat} {s : Caller.Stage} :
    p.stage? c = some s ↔ ∃ r, p.callers[c]? = some ⟨r, s⟩ := by
  rw [stage?, Option.map_eq_some_iff]
  constructor
  · rintro ⟨⟨r, _⟩, at_, rfl⟩
    exact ⟨r, at_⟩
  · rintro ⟨r, at_⟩
    exact ⟨_, at_, rfl⟩

theorem result?_eq_some_iff {c : Nat} {a : Outcome Answer} :
    p.result? c = some a ↔ ∃ x, p.callers[c]? = some x ∧ x.stage = .answered a := by
  unfold result? stage?
  cases p.callers[c]? with
  | none => simp
  | some x => cases stage : x.stage <;> simp [stage]

/-- A caller that has been answered or has left needs nothing. -/
theorem callerNeeds?_of_settled {c : Nat} {s : Caller.Stage} (h : s.isSettled = true) :
    p.callerNeeds? c s = none := by
  cases s with
  | answered | gone => rfl
  | _ => cases h

/-! ## What has been done is not needed again

Every step brings the task whose errand it was to where it needs another one, or none. So it is
enough to know what the task needs where it stands now, and a lemma for each kind of task says so:
a case of the step then has only to name the new stage. -/

theorem Settles.settled {c : Nat} {x : Caller ω} {e : Event ω} {fx : List (Effect ω)}
    {s : Caller.Stage} (h : p.Settles now c x e fx s) : s.isSettled = true := by
  cases h <;> rfl

/-- A caller's wait ends with an errand of its own, or on nobody's errand. -/
theorem Settles.task {c : Nat} {x : Caller ω} {e : Event ω} {fx : List (Effect ω)}
    {s : Caller.Stage} (h : p.Settles now c x e fx s) {d : Errand} (run : e.errand? = some d) :
    d.task = .caller c := by
  cases h with
  | told policy key origin flight r e looks known plain =>
    rcases looks with rfl | rfl <;> cases run <;> rfl
  | left => cases run
  | _ => cases run; rfl

/-- For a caller that stands where it stood. -/
theorem ne_of_caller {c : Nat} {x : Caller ω} {d : Errand} (at_ : p.callers[c]? = some x)
    (h : p.callerNeeds? c x.stage ≠ some d) : p.next? (.caller c) ≠ some d := by
  rw [next?_caller at_]
  exact h

/-- For a caller that the step has moved. What it needs at its new stage may hang on fetches, saves
and waiters, so it is asked of the proxy after the move. -/
theorem ne_of_setStage {c : Nat} {x : Caller ω} {s : Caller.Stage} {d : Errand}
    (at_ : p.callers[c]? = some x) (h : (p.setStage c s).callerNeeds? c s ≠ some d) :
    (p.setStage c s).next? (.caller c) ≠ some d :=
  ne_of_caller (callers_setStage s at_) h

theorem ne_of_fetch {id : Nat} {f : Fetch (Plan ω)} {d : Errand}
    (at_ : p.fetches.fetches[id]? = some f) (h : f.stage.needs? id ≠ some d) :
    p.next? (.fetch id) ≠ some d := by
  rw [next?_fetch at_]
  exact h

theorem ne_of_job {j : Nat} {x : Job Work} {d : Errand} (at_ : p.pool.jobs[j]? = some x)
    (h : p.jobNeeds? j x ≠ some d) : p.next? (.job j) ≠ some d := by
  rw [next?_job at_]
  exact h

theorem ne_of_save {s : Nat} {x : Save} {d : Errand} (at_ : p.saves[s]? = some x)
    (h : x.stage.needs? s ≠ some d) : p.next? (.save s) ≠ some d := by
  rw [next?_save at_]
  exact h

/-- A job that is over needs nothing, whatever its work was. -/
theorem ne_of_ended {j : Nat} {d : Errand} (h : p.pool.stage? j = some .ended) :
    p.next? (.job j) ≠ some d := by
  obtain ⟨⟨work, s⟩, at_, rfl⟩ := Pool.stage?_eq_some h
  exact ne_of_job at_ (by cases work <;> simp [jobNeeds?])

/-- Nor does a fetch that is over, also where the step has changed the pool besides. -/
theorem ne_of_finish {id : Nat} {f : Fetch (Plan ω)} {r : Except Error Fetched} {d : Errand}
    (at_ : p.fetches.fetches[id]? = some f)
    (ends : p'.fetches = p.fetches.finish f.key id r) : p'.next? (.fetch id) ≠ some d := by
  have known : p'.fetches.fetches[id]? = some { f with stage := .ended r } := by
    rw [ends, Coalescer.getElem?_finish, at_, Option.map_some, if_pos rfl]
  exact ne_of_fetch known (by simp [Fetch.Stage.needs?])

/-- After a step the errand that its event has reported back is needed no more. Two tasks get no
further by it, a waiter that is parked again and a job that has to queue, and these wait for the
pool from now on. -/
theorem Step.discharges {e : Event ω} {fx : List (Effect ω)} (h : p.Sane)
    (step : p.Step now e fx p') {d : Errand} (run : e.errand? = some d) :
    p'.next? d.task ≠ some d := by
  cases step with
  | arrive | force | drain | leaveDrain => cases run
  | settle c x e fx s at_ how =>
    rw [how.task run]
    refine ne_of_setStage at_ ?_
    -- A caller that is done needs nothing, this errand or another.
    rw [callerNeeds?_of_settled how.settled]
    simp
  | miss c policy key origin o p₁ flight fx at_ missing how =>
    cases run
    rw [← how.callers] at at_
    -- It has read the store, and from now on it waits to be woken if for anything.
    refine ne_of_setStage at_ ?_
    simp only [callerNeeds?]
    split <;> simp
  | stale c policy key origin v p₁ flight fx at_ live old how =>
    cases run
    rw [← how.callers] at at_
    exact ne_of_setStage (p := { p₁ with pool := _ }) at_ (by simp [callerNeeds?])
  | again c policy key origin flight a e at_ looks known forced joined =>
    have task : d.task = .caller c := by rcases looks with rfl | rfl <;> cases run <;> rfl
    rw [task]
    -- The save it waits for has just been added, so it is not over yet.
    refine ne_of_setStage (p := { p with saves := _ }) at_ ?_
    simp [callerNeeds?, saveOver, Proxy.setStage]
  | drained c q w at_ woken idle =>
    cases run
    exact ne_of_setStage (p := { p with pool := _ }) at_ (by simp [callerNeeds?])
  | parks c q w at_ woken busy =>
    cases run
    -- It needs to be woken only when it has been woken, and now it is parked again.
    exact ne_of_caller at_ (by simp [callerNeeds?, (List.getElem?_eq_some_iff.1 woken).1])
  | ask id f at_ stage =>
    cases run
    have asks : (p.fetches.setStage id .asking).fetches[id]? =
        some { f with stage := .asking } := by
      simp [Coalescer.getElem?_setStage, at_]
    exact ne_of_fetch asks (by simp [Fetch.Stage.needs?])
  | store id f a policy storeKey at_ stage plan =>
    cases run
    exact ne_of_fetch (f := { f with stage := .storing a })
      (by simp [Coalescer.getElem?_setStage, at_]) (by simp [Fetch.Stage.needs?])
  | passOn id f a policy storeKey guard pool₁ pool₂ spawned idle at_ stage plan spawn back =>
    cases run
    exact ne_of_finish at_ rfl
  | failThrough id f r err at_ stage bad plan =>
    cases run
    exact ne_of_finish at_ rfl
  | failBack id f r err guard pool₁ idle at_ stage bad plan back =>
    cases run
    exact ne_of_finish at_ rfl
  | stored id f a r at_ stage =>
    cases run
    exact ne_of_finish at_ rfl
  | queue j pool₁ resumed =>
    cases run
    obtain ⟨work, hx⟩ := Pool.resume?_job resumed
    -- From the queue it is the pool that brings it on.
    refine ne_of_job hx ?_
    intro needed
    cases work <;> cases needed
  | write j pool₁ storeKey v ttl resumed at_ =>
    cases run
    exact ne_of_job at_ (by simp [jobNeeds?])
  | await j pool₁ storeKey f resumed at_ running =>
    cases run
    exact ne_of_job at_ (by simp [jobNeeds?, running])
  | skip j pool₁ pool₂ storeKey f r wakes resumed at_ known finished =>
    cases run
    exact ne_of_ended (Pool.finish?_stage (h.balanced.resume? resumed) finished)
  | endJob j work e r pool₁ wakes at_ how finished =>
    have task : d.task = .job j := by cases how <;> cases run <;> rfl
    rw [task]
    exact ne_of_ended (Pool.finish?_stage h.balanced finished)
  | save s x at_ stage =>
    cases run
    have there := (List.getElem?_eq_some_iff.1 at_).1
    exact ne_of_save (x := { x with stage := .writing }) (by simp [there])
      (by simp [Save.Stage.needs?])
  | saved s x r at_ stage =>
    cases run
    have there := (List.getElem?_eq_some_iff.1 at_).1
    exact ne_of_save (x := { x with stage := .ended (r.caught saveCrash) }) (by simp [there])
      (by simp [Save.Stage.needs?])

/-! ## What is needed is of use

That there is a step at all is shown function by function, for a step is a result of `step` and the
functions below may have none. Each has one as soon as its task stands where `next?` has found it.
-/

/-- A task needs only errands of its own. -/
theorem task_of_next? {t : Task} {d : Errand} (h : p.next? t = some d) : d.task = t := by
  cases t with
  | caller c =>
    obtain ⟨⟨q, s⟩, -, h⟩ := Option.bind_eq_some_iff.1 h
    cases s with
    | reading | writing | deleting => cases h; rfl
    -- Whoever waits for another task needs nothing as long as that is not over.
    | waiting flight | saving s payload | draining w =>
      simp only [callerNeeds?] at h
      split at h <;> cases h
      rfl
    | answered | gone => cases h
  | fetch f =>
    obtain ⟨⟨key, plan, s⟩, -, h⟩ := Option.bind_eq_some_iff.1 h
    cases s <;> cases h <;> rfl
  | job j =>
    obtain ⟨⟨work, s⟩, -, h⟩ := Option.bind_eq_some_iff.1 h
    cases work with
    | writeBack => cases s <;> cases h <;> rfl
    | refresh storeKey f =>
      cases s with
      | running =>
        simp only [jobNeeds?] at h
        split at h <;> cases h
        rfl
      | spawned | granted => cases h; rfl
      | queued | ended => cases h
  | save s =>
    obtain ⟨⟨storeKey, v, ttl, s⟩, -, h⟩ := Option.bind_eq_some_iff.1 h
    cases s <;> cases h <;> rfl

/-- A job that runs can end. -/
theorem endJob?_of_running {j : Nat} {work : Work} (r : Outcome Unit)
    (running : p.pool.stage? j = some .running) : ∃ p' fx, p.endJob? j work r = some (p', fx) :=
  ⟨_, _, endJob?_eq_some_iff.2 ⟨_, _, Pool.finish?_eq_some_iff.2 ⟨running, rfl, rfl⟩, rfl, rfl⟩⟩

/-- A job that runs has its work taken up. A write is asked for, and a refresh ends if its fetch is
over, and waits for it otherwise. -/
theorem work?_of_running {j : Nat} {work : Work}
    (at_ : p.pool.jobs[j]? = some ⟨work, .running⟩) : ∃ p' fx, p.work? j = some (p', fx) := by
  have running : p.pool.stage? j = some .running := by rw [Pool.stage?, at_, Option.map_some]
  cases work with
  | writeBack storeKey v ttl =>
    simp only [work?, at_]
    exact ⟨_, _, rfl⟩
  | refresh storeKey f =>
    simp only [work?, at_]
    cases p.fetches.result? f with
    | none => exact ⟨_, _, rfl⟩
    | some r => exact endJob?_of_running _ running

/-- A job that needs to be resumed can be: it takes a permit or queues for one, or it has been
waiting for a fetch that is over now. -/
theorem resumeJob?_of_needed {j : Nat} (needed : p.next? (.job j) = some (.wake (.job j))) :
    ∃ p' fx, p.resumeJob? j = some (p', fx) := by
  obtain ⟨⟨work, s⟩, at_, needed⟩ := Option.bind_eq_some_iff.1 needed
  have stage : p.pool.stage? j = some s := by rw [Pool.stage?, at_, Option.map_some]
  -- A job that is spawned or has been handed a permit queues or starts.
  have turn : (s = .spawned ∨ s = .granted) → ∃ p' fx, p.resumeJob? j = some (p', fx) := by
    intro ready
    obtain ⟨starts, pool, resumed⟩ : ∃ starts pool, p.pool.resume? j = some (starts, pool) := by
      unfold Pool.resume?
      rw [stage]
      rcases ready with rfl | rfl
      · by_cases free : 0 < p.pool.free
        · exact ⟨_, _, if_pos free⟩
        · exact ⟨_, _, if_neg free⟩
      · exact ⟨_, _, rfl⟩
    have turns : p.resumeJob? j =
        if starts then work? j { p with pool := pool } else some ({ p with pool := pool }, []) := by
      unfold resumeJob?
      rw [at_, resumed]
      rcases ready with rfl | rfl <;> cases work <;> rfl
    rw [turns]
    cases starts with
    | false => exact ⟨_, _, rfl⟩
    | true =>
      obtain ⟨work, hx⟩ := Pool.resume?_job resumed
      exact work?_of_running hx
  cases s with
  | spawned => exact turn (Or.inl rfl)
  | granted => exact turn (Or.inr rfl)
  | queued | ended => cases work <;> cases needed
  | running =>
    cases work with
    | writeBack => cases needed
    | refresh storeKey f =>
      simp only [jobNeeds?] at needed
      split at needed
      case isTrue known =>
        obtain ⟨r, known⟩ := Option.isSome_iff_exists.1 known
        simp only [resumeJob?, at_, known, Option.bind_some]
        exact endJob?_of_running _ stage
      case isFalse => cases needed

/-- A caller that needs to be resumed can be. It waits for a fetch, a save or the pool, and that
what it waits for has come to its end is the condition of its needing anything. The proxy has to be
sane, for only a lookup is ever to wait for a fetch. -/
theorem resumeCaller?_of_needed (h : p.Sane) {c : Nat}
    (needed : p.next? (.caller c) = some (.wake (.caller c))) (now : Moment) :
    ∃ p' fx, p.resumeCaller? now c = some (p', fx) := by
  obtain ⟨⟨q, s⟩, at_, needed⟩ := Option.bind_eq_some_iff.1 needed
  have seat := h.seated c _ at_
  cases s with
  | reading | writing | deleting | answered | gone => cases needed
  | waiting flight =>
    obtain ⟨policy, key, origin, -, rfl, -⟩ := seat
    simp only [callerNeeds?] at needed
    split at needed
    case isTrue known =>
      obtain ⟨r, known⟩ := Option.isSome_iff_exists.1 known
      simp only [resumeCaller?, at_, known, Option.map_some]
      exact ⟨_, _, rfl⟩
    case isFalse => cases needed
  | saving save payload =>
    simp only [callerNeeds?] at needed
    split at needed
    case isTrue known =>
      obtain ⟨⟨storeKey, v, ttl, s⟩, r, hx, rfl⟩ := saveOver_eq_true_iff.1 known
      simp only [resumeCaller?, at_, hx]
      exact ⟨_, _, rfl⟩
    case isFalse => cases needed
  | draining w =>
    simp only [callerNeeds?] at needed
    split at needed
    case isTrue woken =>
      have looked := Pool.look?_eq_some_iff.2 ⟨woken, rfl⟩
      simp only [resumeCaller?, at_, looked, Option.map_some]
      exact ⟨_, _, rfl⟩
    case isFalse => cases needed

/-- The stage that a caller is at when it needs this. A caller that waits for another task only
ever needs to be woken. -/
theorem caller_of_needed {c : Nat} {d : Errand} (needed : p.next? (.caller c) = some d) :
    ∃ x, p.callers[c]? = some x ∧ (d = .wake (.caller c) ∨ (x.stage = .reading ∧ d = .read c) ∨
      (x.stage = .writing ∧ d = .write (.caller c)) ∨ (x.stage = .deleting ∧ d = .delete c)) := by
  obtain ⟨⟨q, s⟩, at_, needed⟩ := Option.bind_eq_some_iff.1 needed
  refine ⟨⟨q, s⟩, at_, ?_⟩
  cases s with
  | reading => cases needed; exact Or.inr (Or.inl ⟨rfl, rfl⟩)
  | writing => cases needed; exact Or.inr (Or.inr (Or.inl ⟨rfl, rfl⟩))
  | deleting => cases needed; exact Or.inr (Or.inr (Or.inr ⟨rfl, rfl⟩))
  | waiting | saving | draining =>
    simp only [callerNeeds?] at needed
    split at needed <;> cases needed
    exact Or.inl rfl
  | answered | gone => cases needed

/-- The stage that a fetch is at when it needs this: three errands bring it from its start to its
end, and it never waits for a permit or another task. -/
theorem fetch_of_needed {id : Nat} {d : Errand} (needed : p.next? (.fetch id) = some d) :
    ∃ f, p.fetches.fetches[id]? = some f ∧ ((f.stage = .queued ∧ d = .wake (.fetch id)) ∨
      (f.stage = .asking ∧ d = .ask id) ∨ ∃ a, f.stage = .storing a ∧ d = .write (.fetch id)) := by
  obtain ⟨f, at_, needed⟩ := Option.bind_eq_some_iff.1 needed
  refine ⟨f, at_, ?_⟩
  cases hs : f.stage with
  | queued => rw [hs] at needed; cases needed; exact Or.inl ⟨rfl, rfl⟩
  | asking => rw [hs] at needed; cases needed; exact Or.inr (Or.inl ⟨rfl, rfl⟩)
  | storing a => rw [hs] at needed; cases needed; exact Or.inr (Or.inr ⟨a, rfl, rfl⟩)
  | ended r => rw [hs] at needed; cases needed

/-- Whatever the origin of a fetch brings, the fetch goes on. A failure or a crash ends it at once,
a value does so where it is to be written later, and where it is written first the write is next. -/
theorem originAnswered?_of_needed {id : Nat} (needed : p.next? (.fetch id) = some (.ask id))
    (now : Moment) (r : Outcome Fetched) :
    ∃ p' fx, p.originAnswered? now id r = some (p', fx) := by
  obtain ⟨f, at_, ⟨-, e⟩ | ⟨asking, -⟩ | ⟨a, -, e⟩⟩ := fetch_of_needed needed
  · cases e
  · have received := (Coalescer.receive?_eq_some_iff (r := r)).2 ⟨at_, asking, rfl⟩
    simp only [originAnswered?, received, Option.bind_some]
    cases plan : f.plan.after with
    | writeThrough policy storeKey => cases r <;> exact ⟨_, _, rfl⟩
    | writeBack policy storeKey guard =>
      cases r with
      | failed | crashed => exact ⟨_, _, rfl⟩
      | ok a =>
        -- The fetch has just received its answer, so it can be concluded.
        have storing : (p.fetches.received f.key id (.ok a)).fetches[id]? =
            some { f with stage := .storing a } := by
          simp [Coalescer.received, Coalescer.getElem?_setStage, at_]
        have concluded :=
          (Coalescer.conclude?_eq_some_iff (r := .ok ())).2 ⟨_, a, storing, rfl, rfl⟩
        simp only [concluded, Option.map_some]
        exact ⟨_, _, rfl⟩
  · cases e

/-- Whatever the store answers to a write, the task that waits for it goes on. The write has been
for a caller, a fetch, a job or a save, and each is found at the one stage at which it writes. -/
theorem writeAnswered?_of_needed {task : Task} (needed : p.next? task = some (.write task))
    (r : Outcome Unit) : ∃ p' fx, p.writeAnswered? task r = some (p', fx) := by
  cases task with
  | caller c =>
    obtain ⟨⟨q, s⟩, at_, e | ⟨-, e⟩ | ⟨rfl, -⟩ | ⟨-, e⟩⟩ := caller_of_needed needed
    · cases e
    · cases e
    · simp only [writeAnswered?, stage?, at_, Option.map_some]
      exact ⟨_, _, rfl⟩
    · cases e
  | fetch id =>
    obtain ⟨f, at_, ⟨-, e⟩ | ⟨-, e⟩ | ⟨a, storing, -⟩⟩ := fetch_of_needed needed
    · cases e
    · cases e
    · have concluded := (Coalescer.conclude?_eq_some_iff (r := r)).2 ⟨f, a, at_, storing, rfl⟩
      simp only [writeAnswered?, concluded, Option.map_some]
      exact ⟨_, _, rfl⟩
  | job j =>
    obtain ⟨⟨work, s⟩, at_, needed⟩ := Option.bind_eq_some_iff.1 needed
    -- A refresh writes nothing itself: its fetch has left that to another job.
    cases work with
    | refresh =>
      cases s with
      | running =>
        simp only [jobNeeds?] at needed
        split at needed <;> cases needed
      | spawned | granted | queued | ended => cases needed
    | writeBack storeKey v ttl =>
      cases s with
      | running =>
        simp only [writeAnswered?, at_]
        exact endJob?_of_running r (by rw [Pool.stage?, at_, Option.map_some])
      | spawned | granted | queued | ended => cases needed
  | save s =>
    obtain ⟨⟨storeKey, v, ttl, s⟩, at_, needed⟩ := Option.bind_eq_some_iff.1 needed
    cases s with
    | writing =>
      simp only [writeAnswered?, at_]
      exact ⟨_, _, rfl⟩
    | queued | ended => cases needed

/-- Whatever a needed errand brings, there is a step. The event decides which function takes it, and
the errand which task it is about, so the two have to be taken apart together. -/
theorem step_of_next? (h : p.Sane) {t : Task} {d : Errand} (needed : p.next? t = some d)
    {e : Event ω} (run : e.errand? = some d) (now : Moment) :
    ∃ p' fx, p.step now e = some (p', fx) := by
  have task := task_of_next? needed
  subst task
  cases e with
  | request | abandoned => cases run
  | resume task =>
    cases run
    cases task with
    | caller c => exact resumeCaller?_of_needed h needed now
    | fetch id =>
      obtain ⟨f, at_, ⟨queued, -⟩ | ⟨-, e⟩ | ⟨a, -, e⟩⟩ := fetch_of_needed needed
      · have asked := Coalescer.ask?_eq_some_iff.2 ⟨at_, queued, rfl⟩
        simp only [step, resume?, asked, Option.map_some]
        exact ⟨_, _, rfl⟩
      · cases e
      · cases e
    | job j => exact resumeJob?_of_needed needed
    | save s =>
      obtain ⟨⟨storeKey, v, ttl, stage⟩, at_, needed⟩ := Option.bind_eq_some_iff.1 needed
      cases stage with
      | queued =>
        simp only [step, resume?, resumeSave?, at_]
        exact ⟨_, _, rfl⟩
      | writing | ended => cases needed
  | originAnswered id r =>
    cases run
    exact originAnswered?_of_needed needed now r
  | writeAnswered task r =>
    cases run
    exact writeAnswered?_of_needed needed r
  | readAnswered c r =>
    cases run
    obtain ⟨⟨q, s⟩, at_, e | ⟨rfl, -⟩ | ⟨-, e⟩ | ⟨-, e⟩⟩ := caller_of_needed needed
    · cases e
    · obtain ⟨policy, key, origin, rfl⟩ := h.seated c _ at_
      simp only [step, at_]
      exact ⟨_, _, rfl⟩
    · cases e
    · cases e
  | deleteAnswered c r =>
    cases run
    obtain ⟨⟨q, s⟩, at_, e | ⟨-, e⟩ | ⟨-, e⟩ | ⟨rfl, -⟩⟩ := caller_of_needed needed
    · cases e
    · cases e
    · cases e
    · simp only [step, stage?, at_, Option.map_some]
      exact ⟨_, _, rfl⟩
  | limitPassed c | limitCrashed c text =>
    -- A clock that runs is never what a caller needs to come further.
    cases run
    obtain ⟨x, -, e | ⟨-, e⟩ | ⟨-, e⟩ | ⟨-, e⟩⟩ := caller_of_needed needed <;> cases e

/-- Only what is needed brings a task further. The clocks are not asked: a limit passes whether or
not anybody waits for it to pass. So an errand that is reported back twice, or to a task that has
gone on, does nothing the second time. -/
theorem Step.needed {e : Event ω} {fx : List (Effect ω)} (step : p.Step now e fx p') {d : Errand}
    (run : e.errand? = some d) (timeless : ∀ c, d ≠ .limit c) : p.next? d.task = some d := by
  -- Four steps resume a job, and each says of it only that the pool had its turn ready.
  have ready : ∀ {j : Nat}, p.pool.stage? j = some .spawned ∨ p.pool.stage? j = some .granted →
      p.next? (.job j) = some (.wake (.job j)) := by
    rintro j (stage | stage) <;>
    · obtain ⟨⟨work, s⟩, at_, rfl⟩ := Pool.stage?_eq_some stage
      rw [next?_job at_]
      cases work <;> rfl
  cases step with
  | arrive | force | drain | leaveDrain => cases run
  | settle c x e fx s at_ how =>
    cases how with
    | told policy key origin flight r e looks known plain =>
      rcases looks with rfl | rfl
      · cases run
        rw [Errand.task, next?_caller at_]
        simp [callerNeeds?, known]
      · cases run
        exact absurd rfl (timeless c)
    | gaveUp | crashed =>
      cases run
      exact absurd rfl (timeless c)
    | saved q save payload s result here known =>
      cases run
      rw [Errand.task, next?_caller at_]
      simp [callerNeeds?, saveOver_eq_true_iff.2 ⟨s, result, here, known⟩]
    | left => cases run
    | unread | hit | written | deleted =>
      cases run
      exact next?_caller at_
  | miss c policy key origin o p₁ flight fx at_ missing how =>
    cases run
    exact next?_caller at_
  | stale c policy key origin v p₁ flight fx at_ live old how =>
    cases run
    exact next?_caller at_
  | again c policy key origin flight a e at_ looks known forced joined =>
    rcases looks with rfl | rfl
    · cases run
      rw [Errand.task, next?_caller at_]
      simp [callerNeeds?, known]
    · cases run
      exact absurd rfl (timeless c)
  | drained c q w at_ woken | parks c q w at_ woken =>
    cases run
    rw [Errand.task, next?_caller at_]
    simp [callerNeeds?, woken]
  | ask id f at_ stage | store id f a policy storeKey at_ stage
  | passOn id f a policy storeKey guard pool₁ pool₂ spawned idle at_ stage
  | failThrough id f r err at_ stage | failBack id f r err guard pool₁ idle at_ stage
  | stored id f a r at_ stage =>
    cases run
    rw [Errand.task, next?_fetch at_, stage]
    rfl
  | queue j pool₁ resumed | write j pool₁ storeKey v ttl resumed | await j pool₁ storeKey f resumed
  | skip j pool₁ pool₂ storeKey f r wakes resumed =>
    cases run
    exact ready (Pool.resume?_cases resumed).2.2.2.2
  | endJob j work e r pool₁ wakes at_ how finished =>
    cases how with
    | wroteBack =>
      cases run
      exact next?_job at_
    | refreshed storeKey f r known =>
      cases run
      rw [Errand.task, next?_job at_]
      simp [jobNeeds?, known]
  | save s x at_ stage | saved s x r at_ stage =>
    cases run
    rw [Errand.task, next?_save at_, stage]
    rfl

/-! ## A fetch comes nearer to its end -/

/-- How many errands a fetch still needs at most. It may need fewer, as one that is to be written
later is over when its origin has answered, and one that fails is over then in any case. -/
def rounds (p : Proxy ω) (id : Nat) : Nat :=
  match (p.fetches.fetches[id]?).map Fetch.stage with
  | some .queued => 3
  | some .asking => 2
  | some (.storing _) => 1
  | _ => 0

/-- A fetch that is moved stands at its new stage. -/
theorem rounds_setStage {id : Nat} {f : Fetch (Plan ω)} {s : Fetch.Stage}
    (at_ : p.fetches.fetches[id]? = some f) :
    ((p.fetches.setStage id s).fetches[id]?).map Fetch.stage = some s := by
  simp [Coalescer.getElem?_setStage, at_]

/-- A fetch that is finished has ended, and is struck off the table in the same step. -/
theorem rounds_finish {id : Nat} {f : Fetch (Plan ω)} {r : Except Error Fetched}
    (at_ : p.fetches.fetches[id]? = some f) :
    ((p.fetches.finish f.key id r).fetches[id]?).map Fetch.stage = some (.ended r) := by
  simp [Coalescer.getElem?_finish, at_]

/-- Each errand of a fetch brings it nearer to its end, whoever holds the permits. That is why a
fetch ends even while every job of the pool is stuck. -/
theorem Step.rounds_lt {e : Event ω} {fx : List (Effect ω)} (step : p.Step now e fx p')
    {d : Errand} {id : Nat} (run : e.errand? = some d) (its : d.task = .fetch id) :
    p'.rounds id < p.rounds id := by
  -- The errand is one of a fetch, so a step of a caller, a job or a save is not meant.
  cases step with
  | arrive | force | drain | leaveDrain => cases run
  | settle c x e fx s at_ how =>
    rw [how.task run] at its
    cases its
  | again c policy key origin flight a e at_ looks known forced joined =>
    rcases looks with rfl | rfl <;> cases run <;> cases its
  | endJob j work e r pool₁ wakes at_ how finished => cases how <;> cases run <;> cases its
  | miss | stale | drained | parks | queue | write | await | skip | save | saved =>
    cases run
    cases its
  | ask id' f at_ stage =>
    cases run
    cases its
    simp only [rounds, rounds_setStage at_, at_, Option.map_some, stage]
    omega
  | store id' f a policy storeKey at_ stage plan =>
    cases run
    cases its
    simp only [rounds, rounds_setStage at_, at_, Option.map_some, stage]
    omega
  | passOn id' f a policy storeKey guard pool₁ pool₂ spawned idle at_ stage plan spawn back =>
    cases run
    cases its
    simp only [rounds, rounds_finish at_, at_, Option.map_some, stage]
    omega
  | failThrough id' f r err at_ stage bad plan =>
    cases run
    cases its
    simp only [rounds, rounds_finish at_, at_, Option.map_some, stage]
    omega
  | failBack id' f r err guard pool₁ idle at_ stage bad plan back =>
    cases run
    cases its
    simp only [rounds, rounds_finish at_, at_, Option.map_some, stage]
    omega
  | stored id' f a r at_ stage =>
    cases run
    cases its
    simp only [rounds, rounds_finish at_, at_, Option.map_some, stage]
    omega

end Proxy

end ReadThrough
