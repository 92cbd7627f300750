import ReadThrough.Proofs.Proxy.Sane

/-!
# What a proxy waits for from outside

A proxy does nothing by itself. It is resumed, or told what an origin, a store or a clock has
brought, and each of these it has asked for with an effect before: an `Errand`. A task needs at
most one errand at a time to come further, and `next?` reads off the state which one that is. A
task without one is over, or it waits for another task (a queued job for a permit, a caller for
its fetch, a refresh for its fetch).

Nobody may come to need an errand that nobody runs. So what a task needs after a step it needed
before, or the step has asked for it (`Step.follows`). That is shown for each kind of change and
put together, as a step is put together of changes.
-/

set_option autoImplicit false

namespace ReadThrough

/-- Something that is to be done outside and to be reported back. -/
inductive Errand where
  /-- Resume the task. -/
  | wake (task : Task)
  /-- Ask the origin for this fetch. -/
  | ask (fetch : Nat)
  /-- Read the store for this caller. -/
  | read (caller : Nat)
  /-- Write the store for this task. -/
  | write (task : Task)
  /-- Delete from the store for this caller. -/
  | delete (caller : Nat)
  /-- Watch the clock for this caller. -/
  | limit (caller : Nat)
  deriving DecidableEq, Repr

/-- The task that is to be told what has come of it. -/
def Errand.task : Errand → Task
  | wake task | write task => task
  | ask fetch => .fetch fetch
  | read caller | delete caller | limit caller => .caller caller

/-- The errand that an effect asks for. -/
def Effect.errand? {ω : Type} : Effect ω → Option Errand
  | wake task => some (.wake task)
  | ask fetch _ _ => some (.ask fetch)
  | read caller _ => some (.read caller)
  | write task _ _ _ => some (.write task)
  | delete caller _ => some (.delete caller)
  | limit caller _ => some (.limit caller)
  | log _ => none

/-- The errand that an event reports back. Callers come and go on nobody's errand. -/
def Event.errand? {ω : Type} : Event ω → Option Errand
  | request _ | abandoned _ => none
  | resume task => some (.wake task)
  | originAnswered fetch _ => some (.ask fetch)
  | readAnswered caller _ => some (.read caller)
  | writeAnswered task _ => some (.write task)
  | deleteAnswered caller _ => some (.delete caller)
  | limitPassed caller | limitCrashed caller _ => some (.limit caller)

/-- The errands that effects ask for. A log entry asks for none. -/
def errands {ω : Type} (fx : List (Effect ω)) : List Errand := fx.filterMap Effect.errand?

theorem errands_append {ω : Type} (fx gx : List (Effect ω)) :
    errands (fx ++ gx) = errands fx ++ errands gx := List.filterMap_append

theorem mem_errands {ω : Type} {fx : List (Effect ω)} {d : Errand} :
    d ∈ errands fx ↔ ∃ x ∈ fx, x.errand? = some d := List.mem_filterMap

/-- What a fetch at this stage needs to come further. -/
def Fetch.Stage.needs? (id : Nat) : Fetch.Stage → Option Errand
  | .queued => some (.wake (.fetch id))
  | .asking => some (.ask id)
  | .storing _ => some (.write (.fetch id))
  | .ended _ => none

/-- What a save at this stage needs to come further. -/
def Save.Stage.needs? (id : Nat) : Save.Stage → Option Errand
  | .queued => some (.wake (.save id))
  | .writing => some (.write (.save id))
  | .ended _ => none

namespace Proxy

variable {ω : Type} {now : Moment} {p p' q r : Proxy ω}

/-- What a job needs to come further. One that waits in the queue for a permit, or for a fetch
that is under way, needs nothing from outside. -/
def jobNeeds? (p : Proxy ω) (j : Nat) : Job Work → Option Errand
  | ⟨_, .spawned⟩ | ⟨_, .granted⟩ => some (.wake (.job j))
  | ⟨.writeBack _ _ _, .running⟩ => some (.write (.job j))
  | ⟨.refresh _ f, .running⟩ =>
    if (p.fetches.result? f).isSome then some (.wake (.job j)) else none
  | _ => none

/-- The save has been answered, so whoever waits for it may go on. -/
def saveOver (p : Proxy ω) (s : Nat) : Bool :=
  match p.saves[s]? with
  | some ⟨_, _, _, .ended _⟩ => true
  | _ => false

theorem saveOver_eq_true_iff {s : Nat} :
    p.saveOver s = true ↔ ∃ x r, p.saves[s]? = some x ∧ x.stage = .ended r := by
  unfold saveOver
  cases p.saves[s]? with
  | none => simp
  | some x =>
    obtain ⟨storeKey, v, ttl, stage⟩ := x
    cases stage <;> simp

/-- What a caller at this stage needs to come further. -/
def callerNeeds? (p : Proxy ω) (c : Nat) : Caller.Stage → Option Errand
  | .reading => some (.read c)
  | .waiting flight =>
    if (p.fetches.result? flight.fetch).isSome then some (.wake (.caller c)) else none
  | .saving s _ => if p.saveOver s then some (.wake (.caller c)) else none
  | .writing => some (.write (.caller c))
  | .deleting => some (.delete c)
  | .draining w =>
    if p.pool.waiters[w]? = some .woken then some (.wake (.caller c)) else none
  | .answered _ | .gone => none

/-- What a task needs to come further, if it needs anything from outside. It is read off the state
alone: a task keeps no list of what it has asked for. -/
def next? (p : Proxy ω) : Task → Option Errand
  | .caller c => (p.callers[c]?).bind fun x => p.callerNeeds? c x.stage
  | .fetch f => (p.fetches.fetches[f]?).bind fun x => x.stage.needs? f
  | .job j => (p.pool.jobs[j]?).bind fun x => p.jobNeeds? j x
  | .save s => (p.saves[s]?).bind fun x => x.stage.needs? s

/-- Whatever a task needs in `q`, it needed in `p`, or the effects ask for it. -/
def Follows (p : Proxy ω) (fx : List (Effect ω)) (q : Proxy ω) : Prop :=
  ∀ t d, q.next? t = some d → p.next? t = some d ∨ d ∈ errands fx

theorem Follows.refl (p : Proxy ω) : p.Follows [] p := fun _ _ h => Or.inl h

/-- Two changes, each with what it asks for. -/
theorem Follows.trans {fx gx : List (Effect ω)} (h : p.Follows fx q) (h' : q.Follows gx r) :
    p.Follows (fx ++ gx) r := by
  intro t d hd
  rw [errands_append, List.mem_append]
  rcases h' t d hd with before | told
  · rcases h t d before with before | told
    · exact Or.inl before
    · exact Or.inr (Or.inl told)
  · exact Or.inr (Or.inr told)

/-- To ask for more than is needed does no harm here. -/
theorem Follows.mono {fx gx : List (Effect ω)} (h : p.Follows fx q)
    (more : ∀ x ∈ fx, x ∈ gx) : p.Follows gx q := by
  intro t d hd
  rcases h t d hd with before | told
  · exact Or.inl before
  · obtain ⟨x, hx, e⟩ := mem_errands.1 told
    exact Or.inr (mem_errands.2 ⟨x, more x hx, e⟩)

/-- The second change makes nothing necessary. -/
theorem Follows.andThen {fx : List (Effect ω)} (h : p.Follows fx q) (h' : q.Follows [] r) :
    p.Follows fx r := by
  have both := h.trans h'
  rw [List.append_nil] at both
  exact both

/-! ## Who is on the lists

Whoever waits for another task is found when that is over, by looking through callers and jobs for
those that wait for it. So nobody can be forgotten, and what the lists hold besides is told here as
well: they wake tasks and do nothing else. -/

theorem mem_callersAt {c : Nat} {x : Caller ω} {at? : Caller.Stage → Bool}
    (at_ : p.callers[c]? = some x) (h : at? x.stage = true) : c ∈ p.callersAt at? := by
  have there := (List.getElem?_eq_some_iff.1 at_).1
  refine List.mem_filter.2 ⟨List.mem_range.2 there, ?_⟩
  simp [stage?, at_, h]

theorem caller_mem_fetchWakes {c id : Nat} {x : Caller ω} {flight : Flight}
    (at_ : p.callers[c]? = some x) (waits : x.stage = .waiting flight) (e : flight.fetch = id) :
    .wake (.caller c) ∈ errands (p.fetchWakes id) := by
  refine mem_errands.2
    ⟨.wake (.caller c), List.mem_append_left _ (List.mem_map.2 ⟨c, ?_, rfl⟩), rfl⟩
  exact mem_callersAt at_ (by rw [waits]; simp [waitsFor, e])

theorem job_mem_fetchWakes {j id : Nat} {storeKey : String}
    (at_ : p.pool.jobs[j]? = some ⟨.refresh storeKey id, .running⟩) :
    .wake (.job j) ∈ errands (p.fetchWakes id) := by
  refine mem_errands.2 ⟨.wake (.job j), List.mem_append_right _ (List.mem_map.2 ⟨j, ?_, rfl⟩), rfl⟩
  have there := (List.getElem?_eq_some_iff.1 at_).1
  refine List.mem_filter.2 ⟨List.mem_range.2 there, ?_⟩
  simp [at_, refreshesBy]

theorem job_mem_poolWakes {j : Nat} {wakes : List Wake} (h : Wake.job j ∈ wakes) :
    .wake (.job j) ∈ errands (p.poolWakes wakes) :=
  mem_errands.2 ⟨.wake (.job j), List.mem_flatMap.2 ⟨_, h, by simp⟩, rfl⟩

theorem caller_mem_poolWakes {c w : Nat} {x : Caller ω} {wakes : List Wake}
    (at_ : p.callers[c]? = some x) (waits : x.stage = .draining w) (h : Wake.waiter w ∈ wakes) :
    .wake (.caller c) ∈ errands (p.poolWakes wakes) := by
  refine mem_errands.2 ⟨.wake (.caller c), List.mem_flatMap.2 ⟨_, h, ?_⟩, rfl⟩
  exact List.mem_map.2 ⟨c, mem_callersAt at_ (by rw [waits]; simp [drainsAs]), rfl⟩

theorem wake_of_mem_poolWakes {x : Effect ω} {wakes : List Wake} (h : x ∈ p.poolWakes wakes) :
    ∃ t, x = .wake t := by
  obtain ⟨w, -, hx⟩ := List.mem_flatMap.1 h
  cases w with
  | job j => exact ⟨.job j, List.mem_singleton.1 hx⟩
  | waiter w =>
    obtain ⟨c, -, rfl⟩ := List.mem_map.1 hx
    exact ⟨.caller c, rfl⟩

theorem wake_of_mem_fetchWakes {x : Effect ω} {id : Nat} (h : x ∈ p.fetchWakes id) :
    ∃ t, x = .wake t := by
  rcases List.mem_append.1 h with h | h <;> obtain ⟨c, -, rfl⟩ := List.mem_map.1 h
  · exact ⟨.caller c, rfl⟩
  · exact ⟨.job c, rfl⟩

theorem limit_of_mem_limitOf {x : Effect ω} {c : Nat} {policy : Policy}
    (h : x ∈ limitOf c policy) : ∃ limit, x = .limit c limit ∧ policy.waitLimit = some limit := by
  unfold limitOf at h
  cases limited : policy.waitLimit with
  | none =>
    rw [limited] at h
    cases h
  | some limit =>
    rw [limited] at h
    exact ⟨limit, List.mem_singleton.1 h, rfl⟩

theorem log_of_mem_endLog {x : Effect ω} {work : Work} {r : Outcome Unit}
    (h : x ∈ endLog work r) : ∃ line, x = .log line := by
  unfold endLog at h
  split at h
  · exact ⟨_, List.mem_singleton.1 h⟩
  · cases h

/-! ## Each kind of change asks for what it makes necessary

What a task needs can change because the task has come to another stage, or because of what it waits
for. For callers it is mostly the first, and the step has to ask for the errand itself; for whoever
waits for a fetch, a save or the pool it is the second, and then the wakes are what it asks for. -/

/-- A caller comes to another stage. -/
theorem Follows.setStage {fx : List (Effect ω)} {c : Nat} {s : Caller.Stage}
    (told : ∀ d, p.callerNeeds? c s = some d → d ∈ errands fx) :
    p.Follows fx (p.setStage c s) := by
  intro t d hd
  cases t with
  | caller i =>
    obtain ⟨x, hx, hd⟩ := Option.bind_eq_some_iff.1 hd
    rcases getElem?_setStage_cases hx with ⟨rfl, y, -, rfl⟩ | ⟨-, same⟩
    · exact Or.inr (told d hd)
    · exact Or.inl (Option.bind_eq_some_iff.2 ⟨x, same, hd⟩)
  | fetch | job | save => exact Or.inl hd

/-- A caller comes. -/
theorem Follows.addCaller {fx : List (Effect ω)} {request : Request ω} {s : Caller.Stage}
    (told : ∀ d, p.callerNeeds? p.callers.length s = some d → d ∈ errands fx) :
    p.Follows fx (p.addCaller request s) := by
  intro t d hd
  cases t with
  | caller i =>
    simp only [next?, getElem?_addCaller] at hd
    obtain ⟨x, hx, hd⟩ := Option.bind_eq_some_iff.1 hd
    split at hx
    case isTrue hi =>
      cases hx
      subst hi
      exact Or.inr (told d hd)
    case isFalse => exact Or.inl (Option.bind_eq_some_iff.2 ⟨x, hx, hd⟩)
  | fetch | job | save => exact Or.inl hd

/-- The pool goes on. What it announces are the jobs that are to take their turn and the waiters
that are to look again, and behind each waiter stands the caller that drains by it. -/
theorem Follows.pool {pool : Pool Work} {wakes : List Wake} (h : p.pool.Announces pool wakes) :
    p.Follows (p.poolWakes wakes) { p with pool := pool } := by
  intro t d hd
  cases t with
  | caller c =>
    obtain ⟨x, hx, hd⟩ := Option.bind_eq_some_iff.1 hd
    by_cases drains : ∃ w, x.stage = .draining w
    · obtain ⟨w, waits⟩ := drains
      rw [waits] at hd
      simp only [callerNeeds?] at hd
      split at hd
      case isTrue woken =>
        cases hd
        rcases h.waiter w woken with before | told
        · refine Or.inl (Option.bind_eq_some_iff.2 ⟨x, hx, ?_⟩)
          rw [waits]
          simp [callerNeeds?, before]
        · exact Or.inr (caller_mem_poolWakes hx waits told)
      case isFalse => cases hd
    · -- No other stage looks at the pool.
      refine Or.inl (Option.bind_eq_some_iff.2 ⟨x, hx, ?_⟩)
      obtain ⟨request, s⟩ := x
      cases s with
      | draining w => exact absurd ⟨w, rfl⟩ drains
      | _ => exact hd
  | job j =>
    obtain ⟨x, hx, hd⟩ := Option.bind_eq_some_iff.1 hd
    rcases h.job j x hx with same | queued | ended | ⟨ready, told⟩
    · exact Or.inl (Option.bind_eq_some_iff.2 ⟨x, same, hd⟩)
    · obtain ⟨work, s⟩ := x
      cases queued
      cases work <;> cases hd
    · obtain ⟨work, s⟩ := x
      cases ended
      cases work <;> cases hd
    · refine Or.inr ?_
      have : d = .wake (.job j) := by
        obtain ⟨work, s⟩ := x
        rcases ready with ready | ready <;> cases ready <;> cases work <;>
          exact (Option.some.inj hd).symm
      rw [this]
      exact job_mem_poolWakes told
  | fetch | save => exact Or.inl hd

/-- A job starts. It is not the pool that announces what it needs now, but its work. -/
theorem Follows.starts {pool : Pool Work} {fx : List (Effect ω)} {j : Nat} {x : Job Work}
    (resumed : p.pool.resume? j = some (true, pool)) (at_ : pool.jobs[j]? = some x)
    (told : ∀ d, p.jobNeeds? j x = some d → d ∈ errands fx) :
    p.Follows fx { p with pool := pool } := by
  obtain ⟨jobs, waiters, -⟩ := Pool.resume?_cases resumed
  intro t d hd
  cases t with
  | caller c =>
    refine Or.inl ?_
    simp only [next?] at hd ⊢
    obtain ⟨y, hy, hd⟩ := Option.bind_eq_some_iff.1 hd
    refine Option.bind_eq_some_iff.2 ⟨y, hy, ?_⟩
    obtain ⟨request, s⟩ := y
    cases s with
    | draining w =>
      simp only [callerNeeds?] at hd ⊢
      rw [← waiters]
      exact hd
    | _ => exact hd
  | job i =>
    obtain ⟨y, hy, hd⟩ := Option.bind_eq_some_iff.1 hd
    by_cases hi : j = i
    · subst hi
      change pool.jobs[j]? = some y at hy
      rw [at_] at hy
      cases hy
      exact Or.inr (told d hd)
    · change pool.jobs[i]? = some y at hy
      rw [jobs] at hy
      rcases Pool.getElem?_setStage_cases hy with ⟨same, -⟩ | ⟨-, old⟩
      · exact absurd same hi
      · exact Or.inl (Option.bind_eq_some_iff.2 ⟨y, old, hd⟩)
  | fetch | save => exact Or.inl hd

/-- Fetches have started, gone on or ended, and everybody who waits for one that ended is woken. -/
theorem Follows.fetches {c : Coalescer (Plan ω)} {fx : List (Effect ω)}
    (results : ∀ i r, c.result? i = some r → p.fetches.result? i = some r ∨
      ∀ x ∈ p.fetchWakes i, x ∈ fx)
    (stages : ∀ (i : Nat) (x : Fetch (Plan ω)), c.fetches[i]? = some x →
      p.fetches.fetches[i]? = some x ∨ ∀ d, x.stage.needs? i = some d → d ∈ errands fx) :
    p.Follows fx { p with fetches := c } := by
  have woken : ∀ i d, (∀ x ∈ p.fetchWakes i, x ∈ fx) → d ∈ errands (p.fetchWakes i) →
      d ∈ errands fx := by
    intro i d all hd
    obtain ⟨x, hx, e⟩ := mem_errands.1 hd
    exact mem_errands.2 ⟨x, all x hx, e⟩
  intro t d hd
  cases t with
  | caller i =>
    obtain ⟨⟨request, s⟩, hx, hd⟩ := Option.bind_eq_some_iff.1 hd
    cases s with
    | waiting flight =>
      simp only [callerNeeds?] at hd
      split at hd
      case isTrue known =>
        cases hd
        obtain ⟨r, hr⟩ := Option.isSome_iff_exists.1 known
        rcases results _ r hr with before | all
        · refine Or.inl (Option.bind_eq_some_iff.2 ⟨_, hx, ?_⟩)
          simp [callerNeeds?, before]
        · exact Or.inr (woken _ _ all (caller_mem_fetchWakes hx rfl rfl))
      case isFalse => cases hd
    | _ => exact Or.inl (Option.bind_eq_some_iff.2 ⟨_, hx, hd⟩)
  | fetch i =>
    obtain ⟨x, hx, hd⟩ := Option.bind_eq_some_iff.1 hd
    rcases stages i x hx with same | told
    · exact Or.inl (Option.bind_eq_some_iff.2 ⟨x, same, hd⟩)
    · exact Or.inr (told d hd)
  | job j =>
    obtain ⟨⟨work, s⟩, hx, hd⟩ := Option.bind_eq_some_iff.1 hd
    cases work with
    | writeBack => exact Or.inl (Option.bind_eq_some_iff.2 ⟨_, hx, by cases s <;> exact hd⟩)
    | refresh storeKey f =>
      cases s with
      | running =>
        simp only [jobNeeds?] at hd
        split at hd
        case isTrue known =>
          cases hd
          obtain ⟨r, hr⟩ := Option.isSome_iff_exists.1 known
          rcases results _ r hr with before | all
          · refine Or.inl (Option.bind_eq_some_iff.2 ⟨_, hx, ?_⟩)
            simp [jobNeeds?, before]
          · exact Or.inr (woken _ _ all (job_mem_fetchWakes hx))
        case isFalse => cases hd
      | _ => exact Or.inl (Option.bind_eq_some_iff.2 ⟨_, hx, hd⟩)
  | save => exact Or.inl hd

/-- A fetch is started, and is to take its turn. -/
theorem Follows.start (p : Proxy ω) (key : String) (plan : Plan ω) :
    p.Follows [.wake (.fetch p.fetches.fetches.length)]
      { p with fetches := p.fetches.start key plan } := by
  refine .fetches (fun i r hr => Or.inl ?_) fun i x hx => ?_
  · rw [Coalescer.result?_start] at hr
    exact hr
  · rw [Coalescer.getElem?_start] at hx
    split at hx
    case isTrue last =>
      cases hx
      apply Or.inr
      intro d hd
      cases hd
      rw [last]
      exact mem_errands.2 ⟨_, List.mem_singleton.2 rfl, rfl⟩
    case isFalse => exact Or.inl hx

/-- A fetch goes on. Nobody is woken, as it has not ended. -/
theorem Follows.advance {id : Nat} {s : Fetch.Stage} {fx : List (Effect ω)}
    (alive' : s.isAlive = true) (told : ∀ d, s.needs? id = some d → d ∈ errands fx) :
    p.Follows fx { p with fetches := p.fetches.setStage id s } := by
  refine .fetches (fun i r hr => Or.inl ?_) fun i x hx => ?_
  · obtain ⟨x, hx, known⟩ := Coalescer.result?_eq_some_iff.1 hr
    rcases Coalescer.getElem?_setStage_cases hx with ⟨-, y, -, rfl⟩ | ⟨-, same⟩
    · cases known
      cases alive'
    · exact Coalescer.result?_eq_some_iff.2 ⟨x, same, known⟩
  · rcases Coalescer.getElem?_setStage_cases hx with ⟨rfl, y, -, rfl⟩ | ⟨-, same⟩
    · exact Or.inr told
    · exact Or.inl same

/-- A fetch ends. It needs nothing any more, and those that wait for it do. -/
theorem Follows.finish (p : Proxy ω) (key : String) (id : Nat) (r : Except Error Fetched) :
    p.Follows (p.fetchWakes id) { p with fetches := p.fetches.finish key id r } := by
  apply Follows.fetches
  · intro i r hr
    obtain ⟨x, hx, known⟩ := Coalescer.result?_eq_some_iff.1 hr
    rcases Coalescer.getElem?_finish_cases hx with ⟨rfl, -⟩ | ⟨-, same⟩
    · exact Or.inr fun x hx => hx
    · exact Or.inl (Coalescer.result?_eq_some_iff.2 ⟨x, same, known⟩)
  · intro i x hx
    rcases Coalescer.getElem?_finish_cases hx with ⟨rfl, y, -, rfl⟩ | ⟨-, same⟩
    · exact Or.inr fun d hd => by cases hd
    · exact Or.inl same

/-- Saves have come in or gone on, and everybody who waits for one that is over is woken. -/
theorem Follows.saves {saves : List Save} {fx : List (Effect ω)}
    (known : ∀ i, saveOver { p with saves := saves } i = true → p.saveOver i = true ∨
      ∀ c ∈ p.callersAt (savesBy i), .wake (.caller c) ∈ errands fx)
    (stages : ∀ (i : Nat) (x : Save), saves[i]? = some x → p.saves[i]? = some x ∨
      ∀ d, x.stage.needs? i = some d → d ∈ errands fx) :
    p.Follows fx { p with saves := saves } := by
  intro t d hd
  cases t with
  | caller i =>
    obtain ⟨⟨request, s⟩, hx, hd⟩ := Option.bind_eq_some_iff.1 hd
    cases s with
    | saving save payload =>
      simp only [callerNeeds?] at hd
      split at hd
      case isTrue ended =>
        cases hd
        rcases known save ended with before | all
        · refine Or.inl (Option.bind_eq_some_iff.2 ⟨_, hx, ?_⟩)
          simp [callerNeeds?, before]
        · exact Or.inr (all i (mem_callersAt hx (by simp [savesBy])))
      case isFalse => cases hd
    | _ => exact Or.inl (Option.bind_eq_some_iff.2 ⟨_, hx, hd⟩)
  | save i =>
    obtain ⟨x, hx, hd⟩ := Option.bind_eq_some_iff.1 hd
    rcases stages i x hx with same | told
    · exact Or.inl (Option.bind_eq_some_iff.2 ⟨x, same, hd⟩)
    · exact Or.inr (told d hd)
  | fetch | job => exact Or.inl hd

/-! ## A step asks for what it makes necessary -/

section Boards

variable {policy : Policy} {key : String} {origin : ω} {guarded : Bool} {p₁ : Proxy ω}
  {flight : Flight} {fx : List (Effect ω)}

/-- Boarding a flight asks for the fetch to take its turn if it is a new one. If it is not, a guard
has been taken in vain and goes back, and that may be the last thing somebody waits for. -/
theorem Boards.follows (b : p.Boards policy key origin guarded p₁ flight fx) : p.Follows fx p₁ := by
  cases b with
  | leadThrough free => exact .start p key _
  | leadBack free =>
    have tracked : p.Follows [] { p with pool := p.pool.track.1 } := .pool (.of_eq rfl rfl)
    exact tracked.trans (.start _ key _)
  | joinThrough id taken => exact .refl p
  | joinBack id taken =>
    have tracked : p.pool.Announces p.pool.track.1 [] := .of_eq rfl rfl
    exact .pool (tracked.trans (.giveBack _ _))

theorem Boards.wakes (b : p.Boards policy key origin guarded p₁ flight fx) {x : Effect ω}
    (h : x ∈ fx) : ∃ t, x = .wake t := by
  cases b with
  | leadThrough | leadBack => exact ⟨_, List.mem_singleton.1 h⟩
  | joinThrough => cases h
  | joinBack => exact wake_of_mem_poolWakes h

/-- Whoever boards a flight finds it under way, so there is nothing yet to wake it for. -/
theorem Boards.running (b : p.Boards policy key origin guarded p₁ flight fx)
    (h : p.fetches.Sound) : p₁.fetches.result? flight.fetch = none := by
  cases b with
  | leadThrough free | leadBack free =>
    refine (Coalescer.result?_start ..).trans ?_
    simp [Coalescer.result?]
  | joinThrough id taken | joinBack id taken =>
    obtain ⟨f, hf, -, alive⟩ := (h key id).1 taken
    apply Option.eq_none_iff_forall_ne_some.2
    intro r hr
    obtain ⟨g, hg, known⟩ := Coalescer.result?_eq_some_iff.1 hr
    rw [hf] at hg
    cases hg
    rw [known] at alive
    cases alive

end Boards

/-- A save goes on, and whoever waits for it is woken if it has come to its end. -/
theorem Follows.setSave {i : Nat} {x : Save} {fx : List (Effect ω)}
    (told : ∀ d, x.stage.needs? i = some d → d ∈ errands fx)
    (known : (∀ r, x.stage ≠ .ended r) ∨
      ∀ c ∈ p.callersAt (savesBy i), .wake (.caller c) ∈ errands fx) :
    p.Follows fx { p with saves := p.saves.set i x } := by
  apply Follows.saves
  · intro k ended
    obtain ⟨y, r, hy, hr⟩ := saveOver_eq_true_iff.1 ended
    rcases getElem?_set_cases hy with ⟨rfl, rfl⟩ | ⟨-, before⟩
    · exact known.elim (fun running => absurd hr (running r)) Or.inr
    · exact Or.inl (saveOver_eq_true_iff.2 ⟨y, r, before, hr⟩)
  · intro k y hy
    rcases getElem?_set_cases hy with ⟨rfl, rfl⟩ | ⟨-, before⟩
    · exact Or.inr told
    · exact Or.inl before

/-- A save is added. -/
theorem Follows.addSave {x : Save} {fx : List (Effect ω)}
    (told : ∀ d, x.stage.needs? p.saves.length = some d → d ∈ errands fx)
    (running : ∀ r, x.stage ≠ .ended r) : p.Follows fx { p with saves := p.saves ++ [x] } := by
  apply Follows.saves
  · intro k ended
    obtain ⟨y, r, hy, hr⟩ := saveOver_eq_true_iff.1 ended
    rw [getElem?_append_singleton] at hy
    split at hy
    case isTrue =>
      cases hy
      exact absurd hr (running r)
    case isFalse => exact Or.inl (saveOver_eq_true_iff.2 ⟨y, r, hy, hr⟩)
  · intro k y hy
    rw [getElem?_append_singleton] at hy
    split at hy
    case isTrue last =>
      cases hy
      rw [last]
      exact Or.inr told
    case isFalse => exact Or.inl hy

/-- After a step a task needs only what it needed before or what the step has asked for. Each case
puts together the changes that the step is made of, in their order. -/
theorem Step.follows {e : Event ω} {fx : List (Effect ω)} (h : p.Sane)
    (step : p.Step now e fx p') : p.Follows fx p' := by
  cases step with
  | arrive r fx s how =>
    apply Follows.addCaller
    intro d hd
    cases how with
    | vacuous => cases hd
    | read | set | remove =>
      cases hd
      exact mem_errands.2 ⟨_, List.mem_singleton.2 rfl, rfl⟩
  | force policy key origin p₁ flight fx some_key forced how =>
    refine how.follows.trans (.addCaller ?_)
    intro d hd
    simp [callerNeeds?, how.running h.sound] at hd
  | drain =>
    have waits : p.Follows [] { p with pool := p.pool.wait.1 } := .pool (.wait p.pool)
    refine waits.trans (.addCaller ?_)
    intro d hd
    by_cases idle : p.pool.pending = 0
    · simp [idle, callerNeeds?] at hd
    · simp [idle, callerNeeds?, Pool.wait] at hd
  | settle c x e fx s at_ how =>
    apply Follows.setStage
    intro d hd
    cases how with
    | unread | hit | told | gaveUp | crashed | saved | written | deleted | left => cases hd
  | miss c policy key origin o p₁ flight fx at_ missing how =>
    refine how.follows.trans (.setStage ?_)
    intro d hd
    simp [callerNeeds?, how.running h.sound] at hd
  | stale c policy key origin v p₁ flight fx at_ live old how =>
    have spawned : p₁.Follows [.wake (.job p₁.pool.jobs.length)]
        { p₁ with pool := (p₁.pool.spawn (.refresh (p.keys.build key) flight.fetch)).1 } :=
      .pool (.spawn _ _)
    refine (how.follows.trans spawned).andThen (.setStage ?_)
    intro d hd
    cases hd
  | again c policy key origin flight a e at_ looks known forced joined =>
    -- Whoever waits for a save needs nothing, and the save has just come in.
    have added : p.Follows [.wake (.save p.saves.length)] { p with saves := p.saves ++
        [(⟨p.keys.build key, a.stamp now, policy.ttlFor a.payload, .queued⟩ : Save)] } := by
      refine .addSave ?_ (by simp)
      intro d hd
      cases hd
      exact mem_errands.2 ⟨_, List.mem_singleton.2 rfl, rfl⟩
    refine added.andThen (.setStage ?_)
    intro d hd
    simp [callerNeeds?, saveOver] at hd
  | drained c q w at_ woken idle =>
    have returned : p.Follows []
        { p with pool := { p.pool with waiters := p.pool.waiters.set w .returned } } :=
      .pool (.setWaiter _ w (by simp))
    refine returned.andThen (.setStage ?_)
    intro d hd
    cases hd
  | parks c q w at_ woken busy => exact .pool (.setWaiter _ w (by simp))
  | leaveDrain c q w at_ =>
    have gone : p.Follows [] { p with pool := p.pool.leave w } := .pool (.setWaiter _ w (by simp))
    refine gone.andThen (.setStage ?_)
    intro d hd
    cases hd
  | ask id f at_ stage =>
    apply Follows.advance rfl
    intro d hd
    cases hd
    exact mem_errands.2 ⟨_, List.mem_singleton.2 rfl, rfl⟩
  | store id f a policy storeKey at_ stage plan =>
    apply Follows.advance rfl
    intro d hd
    cases hd
    exact mem_errands.2 ⟨_, List.mem_singleton.2 rfl, rfl⟩
  | passOn id f a policy storeKey guard pool₁ pool₂ spawned idle at_ stage plan spawn back =>
    have first := Pool.Announces.spawn p.pool
      (.writeBack storeKey (a.stamp now) (policy.ttlFor a.payload))
    have second := Pool.Announces.giveBack pool₁ guard
    rw [back] at second
    cases spawn
    exact Follows.trans (.pool (first.trans second)) (.finish _ f.key id (.ok a))
  | failThrough id f r err at_ stage bad plan => exact .finish p f.key id (.error err)
  | failBack id f r err guard pool₁ idle at_ stage bad plan back =>
    have given := Pool.Announces.giveBack p.pool guard
    rw [back] at given
    exact Follows.trans (.pool given) (.finish _ f.key id (.error err))
  | stored id f a r at_ stage => exact .finish p f.key id _
  | queue j pool₁ resumed => exact .pool (.queue resumed)
  | write j pool₁ storeKey v ttl resumed at_ =>
    apply Follows.starts resumed at_
    intro d hd
    cases hd
    exact mem_errands.2 ⟨_, List.mem_singleton.2 rfl, rfl⟩
  | await j pool₁ storeKey f resumed at_ running =>
    apply Follows.starts resumed at_
    intro d hd
    simp [jobNeeds?, running] at hd
  | skip j pool₁ pool₂ storeKey f r wakes resumed at_ known finished =>
    exact Follows.mono (.pool (.skip resumed finished)) fun x hx => List.mem_append_right _ hx
  | endJob j work e r pool₁ wakes at_ how finished =>
    exact Follows.mono (.pool (.finish? finished)) fun x hx => List.mem_append_right _ hx
  | save s x at_ stage =>
    refine .setSave ?_ (Or.inl (by simp))
    intro d hd
    cases hd
    exact mem_errands.2 ⟨_, List.mem_singleton.2 rfl, rfl⟩
  | saved s x r at_ stage =>
    refine .setSave (fun d hd => by cases hd) (Or.inr ?_)
    intro c hc
    exact mem_errands.2 ⟨.wake (.caller c), List.mem_map.2 ⟨c, hc, rfl⟩, rfl⟩

end Proxy

end ReadThrough
