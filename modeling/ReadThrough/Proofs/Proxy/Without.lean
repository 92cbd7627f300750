import ReadThrough.Proofs.Proxy.Orders

/-!
# A proxy without one of its callers

Nothing in a proxy looks at whether a caller still waits, except to wake it. Said exactly: take a
caller out (`without`), and every step that does not concern it is the same step, with the same
effects but for those meant for that caller (`step_without`). This is shown for each function of
the proxy as the functions call one another.

It does not say that a caller that leaves makes no difference. One that waits for the store takes
what it has asked for along, and one that is to write for itself does not write. It says that all
difference there can be is in the events that concern the caller.

Two things have to be right for it. A caller keeps its number when it has left, so that one that
comes afterwards gets the same number either way; and the wakes of a fetch, a save or the pool are
computed from the callers that wait, so that they are the same but for one. The rest of a proxy,
its fetches, jobs, saves and keys, is equal by definition, and most proofs here only take a function
apart as far as the places where callers come in.
-/

set_option autoImplicit false

namespace ReadThrough

/-- The caller that a task is. -/
def Task.caller? : Task → Option Nat
  | .caller c => some c
  | .fetch _ | .job _ | .save _ => none

/-- The caller for whom an effect is meant: the one who is to be told what has come of it. A log
entry is meant for nobody. -/
def Effect.caller? {ω : Type} (x : Effect ω) : Option Nat := x.errand?.bind (·.task.caller?)

/-- The effects that are not meant for the caller. -/
def others {ω : Type} (c : Nat) (fx : List (Effect ω)) : List (Effect ω) :=
  fx.filter fun x => x.caller? ≠ some c

namespace Proxy

variable {ω : Type} {now : Moment} {p : Proxy ω} {c : Nat}

/-- The proxy as if the caller had left, without anything that its leaving might have brought about.
A caller that is not there cannot have left, and this changes nothing then. -/
def without (p : Proxy ω) (c : Nat) : Proxy ω := p.setStage c .gone

/-- A proxy and what is to be done, as if the caller had left. Most functions of a proxy give both,
so this is what each of them is compared by. -/
def hush (c : Nat) (r : Proxy ω × List (Effect ω)) : Proxy ω × List (Effect ω) :=
  (r.1.without c, others c r.2)

/-- What a drain waits for does not depend on callers. -/
theorem pending_without (p : Proxy ω) (c : Nat) : (p.without c).pending = p.pending := rfl

/-- Nor do the keys that are being fetched. -/
theorem underWay_without (p : Proxy ω) (c : Nat) : (p.without c).underWay = p.underWay := rfl

/-! ## Callers -/

@[simp] theorem callers_without_length (p : Proxy ω) (c : Nat) :
    (p.without c).callers.length = p.callers.length := by
  simp [without, setStage]

theorem callers_without {d : Nat} (ne : d ≠ c) : (p.without c).callers[d]? = p.callers[d]? := by
  rw [without, getElem?_setStage]
  simp [Ne.symm ne]

theorem stage?_without {d : Nat} (ne : d ≠ c) : (p.without c).stage? d = p.stage? d := by
  rw [stage?, stage?, callers_without ne]

/-- Where the caller stood is forgotten. -/
theorem without_setStage_self (p : Proxy ω) (c : Nat) (s : Caller.Stage) :
    (p.setStage c s).without c = p.without c := by
  simp only [without, setStage, List.modify_modify_eq]
  rfl

/-- The moves of the others are made either way. -/
theorem without_setStage (p : Proxy ω) {d : Nat} (ne : d ≠ c) (s : Caller.Stage) :
    (p.setStage d s).without c = (p.without c).setStage d s := by
  simp only [without, setStage]
  rw [List.modify_modify_ne _ _ _ ne]

/-- So is the coming of a new one. The caller has to be there, or it might be the one that comes. -/
theorem without_addCaller (p : Proxy ω) (there : c < p.callers.length) (r : Request ω)
    (s : Caller.Stage) : (p.addCaller r s).without c = (p.without c).addCaller r s := by
  simp only [without, setStage, addCaller]
  rw [modify_append_singleton there]

/-- Of the callers that stand at some stage, all but this one stand there still. The stage is one at
which somebody waits, so one who has left does not stand there. -/
theorem callersAt_without (there : c < p.callers.length) (at? : Caller.Stage → Bool)
    (waits : at? .gone = false) :
    (p.without c).callersAt at? = (p.callersAt at?).filter fun d => d ≠ c := by
  unfold callersAt
  rw [callers_without_length, List.filter_filter]
  refine List.filter_congr fun d _ => ?_
  by_cases here : d = c
  · subst here
    have left : (p.without d).stage? d = some .gone := by
      rw [stage?, without, getElem?_setStage, List.getElem?_eq_getElem there, Option.map_some,
        if_pos rfl, Option.map_some]
    simp [left, waits]
  · simp [stage?_without here, here]

/-! ## Effects

An effect is kept or dropped by itself, so rows of them are dealt with piece by piece: the pieces
that are meant for callers lose one, and the others stay whole. -/

theorem others_append (fx gx : List (Effect ω)) :
    others c (fx ++ gx) = others c fx ++ others c gx := List.filter_append ..

/-- What is meant for others, or for nobody, stays whole. -/
theorem others_eq_self {fx : List (Effect ω)} (h : ∀ x ∈ fx, x.caller? ≠ some c) :
    others c fx = fx :=
  List.filter_eq_self.2 fun x hx => decide_eq_true (h x hx)

theorem others_singleton (x : Effect ω) {d : Nat} (meant : x.caller? = some d) (ne : d ≠ c) :
    others c [x] = [x] := by
  refine others_eq_self fun y hy => ?_
  rw [List.mem_singleton.1 hy, meant]
  exact fun same => ne (Option.some.inj same)

/-- Of the callers that are to be woken one is left out. -/
theorem others_wakes (l : List Nat) :
    others c (l.map fun d => (.wake (.caller d) : Effect ω)) =
      (l.filter fun d => d ≠ c).map fun d => .wake (.caller d) := by
  unfold others
  rw [List.filter_map]
  congr 1
  refine List.filter_congr fun d _ => ?_
  simp [Effect.caller?, Effect.errand?, Errand.task, Task.caller?]

/-- The pool wakes jobs and waiters. A job is no caller, and behind a waiter stand the callers that
drain by it. -/
theorem poolWakes_without (there : c < p.callers.length) (wakes : List Wake) :
    (p.without c).poolWakes wakes = others c (p.poolWakes wakes) := by
  unfold poolWakes
  rw [others, List.filter_flatMap]
  congr 1
  funext w
  cases w with
  | job j => rfl
  | waiter w =>
    simp only [callersAt_without there (drainsAs w) rfl]
    exact (others_wakes _).symm

/-- A fetch that ends wakes the callers that wait for it, and the refreshes, which are jobs. -/
theorem fetchWakes_without (there : c < p.callers.length) (fetch : Nat) :
    (p.without c).fetchWakes fetch = others c (p.fetchWakes fetch) := by
  unfold fetchWakes
  rw [others_append, others_wakes, callersAt_without there (waitsFor fetch) rfl]
  congr 1
  refine (others_eq_self ?_).symm
  intro x hx
  obtain ⟨j, -, rfl⟩ := List.mem_map.1 hx
  simp [Effect.caller?, Effect.errand?, Errand.task, Task.caller?]

/-- The limit of another caller is watched either way. -/
theorem others_limitOf {d : Nat} (ne : d ≠ c) (policy : Policy) :
    others c (limitOf d policy : List (Effect ω)) = limitOf d policy := by
  refine others_eq_self ?_
  intro x hx
  obtain ⟨limit, rfl, -⟩ := limit_of_mem_limitOf hx
  simpa [Effect.caller?, Effect.errand?, Errand.task, Task.caller?] using ne

/-- The fetch that is started is a task of its own, whoever has started it. -/
theorem others_leaderWake (flight : Flight) :
    others c (leaderWake flight : List (Effect ω)) = leaderWake flight := by
  refine others_eq_self ?_
  intro x hx
  unfold leaderWake at hx
  split at hx
  · rw [List.mem_singleton.1 hx]
    simp [Effect.caller?, Effect.errand?, Errand.task, Task.caller?]
  · cases hx

/-! ## Each function in turn

From the inside out: first how a flight is boarded, then what requests, answers and limits do, then
jobs, fetches and saves, and a step at last. A function that moves a caller moves another one than
that which is taken out; this is what `ne` is for. -/

/-- Boarding a flight that writes first looks at the flights only. -/
theorem joinThrough_without (policy : Policy) (key : String) (origin : ω) :
    (p.without c).joinThrough policy key origin =
      ((p.joinThrough policy key origin).1.without c, (p.joinThrough policy key origin).2.1,
        others c (p.joinThrough policy key origin).2.2) := by
  unfold joinThrough
  simp only [others_leaderWake]
  rfl

/-- Boarding one that writes later takes a guard and may give it back, and then whoever waits for
the pool to be idle is woken. So here a caller can come in. -/
theorem joinBack_without (there : c < p.callers.length) (policy : Policy) (key : String)
    (origin : ω) : (p.without c).joinBack policy key origin =
      ((p.joinBack policy key origin).1.without c, (p.joinBack policy key origin).2.1,
        others c (p.joinBack policy key origin).2.2) := by
  unfold joinBack
  simp only [show (p.without c).fetches = p.fetches from rfl,
    show (p.without c).pool = p.pool from rfl, show (p.without c).keys = p.keys from rfl]
  cases (p.fetches.join key
    ⟨origin, .writeBack policy (p.keys.build key) p.pool.track.2⟩) with
  | mk fetches flight =>
    cases leads : flight.leader with
    | true =>
      simp only [if_true, others_leaderWake]
      rfl
    | false =>
      simp only [Bool.false_eq_true, if_false]
      rw [← poolWakes_without (p := { p with fetches := fetches, pool := p.pool.track.1 }) there]
      rfl

/-- A refresh boards its flight as a lookup does, and adds the job that is to wait for it. -/
theorem startRefresh_without (there : c < p.callers.length) (policy : Policy) (key : String)
    (origin : ω) : (p.without c).startRefresh policy key origin =
      hush c (p.startRefresh policy key origin) := by
  have callers := (p.joinBack_boards policy key origin).callers
  unfold startRefresh
  rw [joinBack_without there]
  simp only [hush, others_append]
  rw [← poolWakes_without (p := (p.joinBack policy key origin).1) (by rw [callers]; exact there)]
  rfl

/-- A request is taken alike, and its caller gets the same number, since nobody is struck off. -/
theorem request_without (there : c < p.callers.length) (r : Request ω) :
    (p.without c).request now r = hush c (p.request now r) := by
  have ne : p.callers.length ≠ c := Nat.ne_of_gt there
  cases r with
  | lookup policy key origin =>
    simp only [request, callers_without_length]
    split
    · simp only [hush, without_addCaller p there]
      rfl
    · split
      · have callers := (p.joinThrough_boards policy key origin).callers
        rw [joinThrough_without]
        simp only [hush, others_append, others_limitOf ne]
        rw [without_addCaller _ (by rw [callers]; exact there)]
      · simp only [hush, without_addCaller p there]
        rw [others_singleton (.read p.callers.length (p.keys.build key)) rfl ne]
        rfl
  | set policy key payload =>
    simp only [request, callers_without_length]
    split
    · simp only [hush, without_addCaller p there]
      rfl
    · simp only [hush, without_addCaller p there]
      rw [others_eq_self]
      · rfl
      · intro x hx
        rw [List.mem_singleton.1 hx]
        simpa [Effect.caller?, Effect.errand?, Errand.task, Task.caller?] using ne
  | remove key =>
    simp only [request, callers_without_length]
    split
    · simp only [hush, without_addCaller p there]
      rfl
    · simp only [hush, without_addCaller p there]
      rw [others_eq_self]
      · rfl
      · intro x hx
        rw [List.mem_singleton.1 hx]
        simpa [Effect.caller?, Effect.errand?, Errand.task, Task.caller?] using ne
  | drain =>
    simp only [request, hush]
    rw [without_addCaller { p with pool := p.pool.wait.1 } there]
    rfl

/-- What a caller does when it has read the store it does alike: on a miss and on an entry that is
too old it boards the same flight. -/
theorem afterRead_without (there : c < p.callers.length) {d : Nat} (ne : d ≠ c) (policy : Policy)
    (key : String) (origin : ω) (r : Outcome (Option Value)) :
    (p.without c).afterRead now d policy key origin r =
      hush c (p.afterRead now d policy key origin r) := by
  have miss : ((((p.without c).joinBack policy key origin).1.setStage d
        (.waiting ((p.without c).joinBack policy key origin).2.1)),
      ((p.without c).joinBack policy key origin).2.2 ++ limitOf d policy) =
      hush c ((p.joinBack policy key origin).1.setStage d
        (.waiting (p.joinBack policy key origin).2.1),
        (p.joinBack policy key origin).2.2 ++ limitOf d policy) := by
    rw [joinBack_without there]
    simp only [hush, others_append, others_limitOf ne, without_setStage _ ne]
  -- An entry that stands for nothing is a miss as no entry is, so `miss` is used twice.
  cases r with
  | failed e => simp only [afterRead, hush, without_setStage _ ne]; rfl
  | crashed t => simp only [afterRead, hush, without_setStage _ ne]; rfl
  | ok o =>
    cases o with
    | none => exact miss
    | some v =>
      simp only [afterRead]
      split
      · exact miss
      · split
        · rw [startRefresh_without there]
          simp only [hush, without_setStage _ ne]
        · simp only [hush, without_setStage _ ne]
          rfl

/-- What a fetch has brought is delivered alike, also where it means that a caller has to write for
itself. -/
theorem deliver_without {d : Nat} (ne : d ≠ c) (policy : Policy) (key : String) (flight : Flight)
    (r : Except Error Fetched) : (p.without c).deliver now d policy key flight r =
      hush c (p.deliver now d policy key flight r) := by
  cases r with
  | error e => simp only [deliver, hush, without_setStage _ ne]; rfl
  | ok a =>
    simp only [deliver]
    split
    · simp only [hush, without_setStage _ ne]
      rfl
    · simp only [hush, without_setStage _ ne]
      rfl

/-- A limit that passes finds the fetch over, or its caller gives up; either way it finds the same.
-/
theorem limitPassed?_without {d : Nat} (ne : d ≠ c) :
    (p.without c).limitPassed? now d = (p.limitPassed? now d).map (hush c) := by
  unfold limitPassed?
  rw [callers_without ne]
  split
  · rw [show (p.without c).fetches = p.fetches from rfl]
    split
    · rw [deliver_without ne]
      rfl
    · rw [Option.map_map]
      congr 1
      funext limit
      simp only [Function.comp, giveUp, hush, without_setStage _ ne]
      rfl
  · rfl

/-- A clock that fails fails for its own caller. -/
theorem limitCrashed?_without {d : Nat} (ne : d ≠ c) (text : String) :
    (p.without c).limitCrashed? d text = (p.limitCrashed? d text).map (hush c) := by
  unfold limitCrashed?
  rw [stage?_without ne]
  split
  · simp only [Option.map_some, hush, without_setStage _ ne]
    rfl
  · rfl

/-- A job that ends wakes jobs, and callers where it was the last. -/
theorem endJob?_without (there : c < p.callers.length) (job : Nat) (work : Work)
    (r : Outcome Unit) : (p.without c).endJob? job work r = (p.endJob? job work r).map (hush c) := by
  unfold endJob?
  rw [show (p.without c).pool = p.pool from rfl, Option.map_map]
  congr 1
  funext ⟨pool, wakes⟩
  simp only [Function.comp, hush, others_append]
  rw [poolWakes_without there]
  cases r <;> rfl

/-- The work of a job is taken up alike. -/
theorem work?_without (there : c < p.callers.length) (job : Nat) :
    (p.without c).work? job = (p.work? job).map (hush c) := by
  unfold work?
  rw [show (p.without c).pool = p.pool from rfl, show (p.without c).fetches = p.fetches from rfl]
  split
  · rfl
  · split
    · exact endJob?_without there _ _ _
    · rfl
  · rfl

/-- A job is resumed alike, for neither the pool nor a fetch looks at callers. -/
theorem resumeJob?_without (there : c < p.callers.length) (job : Nat) :
    (p.without c).resumeJob? job = (p.resumeJob? job).map (hush c) := by
  unfold resumeJob?
  rw [show (p.without c).pool = p.pool from rfl, show (p.without c).fetches = p.fetches from rfl]
  split
  · rw [Option.map_bind]
    congr 1
    funext r
    exact endJob?_without there _ _ _
  · rw [Option.map_bind]
    congr 1
    funext ⟨starts, pool⟩
    cases starts with
    | true => exact work?_without (p := { p with pool := pool }) there job
    | false => rfl

/-- An answer of an origin moves a fetch, and wakes whoever waits for it if it has ended with that.
The fetch goes on even if nobody does. -/
theorem originAnswered?_without (there : c < p.callers.length) (fetch : Nat)
    (r : Outcome Fetched) : (p.without c).originAnswered? now fetch r =
      (p.originAnswered? now fetch r).map (hush c) := by
  unfold originAnswered?
  rw [show (p.without c).fetches = p.fetches from rfl, Option.map_bind]
  congr 1
  funext ⟨f, fetches⟩
  -- Whatever becomes of fetches and pool, the same are woken but for the caller.
  have woken : ∀ (fetches : Coalescer (Plan ω)) (pool : Pool Work),
      others c (fetchWakes ⟨p.keys, fetches, pool, p.callers, p.saves⟩ fetch) =
        fetchWakes ⟨(p.without c).keys, fetches, pool, (p.without c).callers,
          (p.without c).saves⟩ fetch :=
    fun fetches pool =>
      (fetchWakes_without (p := ⟨p.keys, fetches, pool, p.callers, p.saves⟩) there fetch).symm
  have idle : ∀ (fetches : Coalescer (Plan ω)) (pool : Pool Work) (wakes : List Wake),
      others c (poolWakes ⟨p.keys, fetches, pool, p.callers, p.saves⟩ wakes) =
        poolWakes ⟨(p.without c).keys, fetches, pool, (p.without c).callers,
          (p.without c).saves⟩ wakes :=
    fun fetches pool wakes =>
      (poolWakes_without (p := ⟨p.keys, fetches, pool, p.callers, p.saves⟩) there wakes).symm
  cases r with
  | ok a =>
    cases after : f.plan.after with
    | writeThrough policy storeKey =>
      simp only [Function.comp, after]
      rfl
    | writeBack policy storeKey guard =>
      simp only [Function.comp, after, Option.map_map]
      congr 1
      funext fetches'
      simp only [Function.comp, hush, others_append, woken, idle]
      rfl
  | failed e =>
    cases after : f.plan.after with
    | writeThrough policy storeKey =>
      simp only [Function.comp, after, Option.map_some, hush, woken]
      rfl
    | writeBack policy storeKey guard =>
      simp only [Function.comp, after, Option.map_some, hush, others_append, woken, idle]
      rfl
  | crashed t =>
    cases after : f.plan.after with
    | writeThrough policy storeKey =>
      simp only [Function.comp, after, Option.map_some, hush, woken]
      rfl
    | writeBack policy storeKey guard =>
      simp only [Function.comp, after, Option.map_some, hush, others_append, woken, idle]
      rfl

/-- An answer of the store to a write goes to a fetch, a job, a save or another caller. Whoever
waits for one of the first three is woken. -/
theorem writeAnswered?_without (there : c < p.callers.length) {task : Task}
    (ne : task.caller? ≠ some c) (r : Outcome Unit) :
    (p.without c).writeAnswered? task r = (p.writeAnswered? task r).map (hush c) := by
  cases task with
  | fetch id =>
    simp only [writeAnswered?, show (p.without c).fetches = p.fetches from rfl, Option.map_map]
    congr 1
    funext fetches
    simp only [Function.comp, hush]
    rw [← fetchWakes_without (p := { p with fetches := fetches }) there]
    rfl
  | job j =>
    simp only [writeAnswered?, show (p.without c).pool = p.pool from rfl]
    split
    · exact endJob?_without there _ _ _
    · rfl
  | save s =>
    simp only [writeAnswered?, show (p.without c).saves = p.saves from rfl]
    split
    · next storeKey v ttl at_ =>
      have woken := callersAt_without (p := { p with
        saves := p.saves.set s ⟨storeKey, v, ttl, .ended (r.caught saveCrash)⟩ }) there (savesBy s) rfl
      simp only [Option.map_some, hush, others_wakes, ← woken]
      rfl
    · rfl
  | caller d =>
    have other : d ≠ c := fun same => ne (by rw [same]; rfl)
    simp only [writeAnswered?, stage?_without other]
    split
    · simp only [Option.map_some, hush, without_setStage _ other]
      rfl
    · rfl

/-- Another caller is resumed alike, for what it looks at is its own stage and the fetch, save or
waiter that it waits for. -/
theorem resumeCaller?_without {d : Nat} (ne : d ≠ c) :
    (p.without c).resumeCaller? now d = (p.resumeCaller? now d).map (hush c) := by
  unfold resumeCaller?
  rw [callers_without ne]
  split
  · rw [show (p.without c).fetches = p.fetches from rfl, Option.map_map]
    congr 1
    funext r
    exact deliver_without ne _ _ _ _
  · rw [show (p.without c).saves = p.saves from rfl]
    split
    · simp only [Option.map_some, hush, without_setStage _ ne]
      rfl
    · rfl
  · rw [show (p.without c).pool = p.pool from rfl, Option.map_map]
    congr 1
    funext pool
    simp only [Function.comp, hush]
    split
    · rw [without_setStage _ ne]
      rfl
    · rfl
  · rfl

/-- Any other task is resumed alike. -/
theorem resume?_without (there : c < p.callers.length) {task : Task} (ne : task.caller? ≠ some c) :
    (p.without c).resume? now task = (p.resume? now task).map (hush c) := by
  cases task with
  | caller d => exact resumeCaller?_without fun same => ne (by rw [same]; rfl)
  | fetch f =>
    simp only [resume?, show (p.without c).fetches = p.fetches from rfl, Option.map_map]
    rfl
  | job j => exact resumeJob?_without there j
  | save s =>
    simp only [resume?, resumeSave?, show (p.without c).saves = p.saves from rfl]
    split <;> rfl

/-- Another caller may leave as well. -/
theorem abandon?_without {d : Nat} (ne : d ≠ c) :
    (p.without c).abandon? d = (p.abandon? d).map (hush c) := by
  unfold abandon?
  rw [stage?_without ne]
  split
  · rfl
  · rfl
  · rfl
  · simp only [Option.map_some, hush, without_setStage _ ne]
    rfl
  · simp only [Option.map_some, hush, without_setStage _ ne]
    rfl

/-- **A step that does not concern a caller is the same step without that caller.** It has the same
effects but for those meant for the caller, and if it is none, then it is none without the caller
either. -/
theorem step_without (there : c < p.callers.length) {e : Event ω} (other : e.caller? ≠ some c) :
    (p.without c).step now e = (p.step now e).map (hush c) := by
  have apart : ∀ {d : Nat}, e.caller? = some d → d ≠ c := by
    rintro d concerned rfl
    exact other concerned
  cases e with
  | request r =>
    simp only [step, request_without there]
    rfl
  | resume task => exact resume?_without there fun same => other (by cases task <;> exact same)
  | originAnswered fetch r => exact originAnswered?_without there fetch r
  | readAnswered d r =>
    simp only [step, callers_without (apart rfl)]
    split
    · rw [afterRead_without there (apart rfl)]
      rfl
    · rfl
  | writeAnswered task r =>
    exact writeAnswered?_without there (fun same => other (by cases task <;> exact same)) r
  | deleteAnswered d r =>
    simp only [step, stage?_without (apart rfl)]
    split
    · simp only [Option.map_some, hush, without_setStage _ (apart rfl)]
      rfl
    · rfl
  | limitPassed d => exact limitPassed?_without (apart rfl)
  | limitCrashed d text => exact limitCrashed?_without (apart rfl) text
  | abandoned d => exact abandon?_without (apart rfl)

end Proxy

end ReadThrough
