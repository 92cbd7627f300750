import ReadThrough.Proofs.Proxy.Leaders

/-!
# What the store is asked for

An errand for the store matters beyond the proxy: a write that is carried out twice, or for a
task that has gone on without it, changes what is kept there. So it is shown here that the store
is asked for nothing twice, and for nothing that no task waits for. The one exception is a caller
that has left: what it has asked for is not called back.

For this it has to be known what a step leaves alone. A caller is moved only by events that
concern it (`Step.others`), and a task that waits for the store goes on waiting until the store
has answered it (`Step.wants`). The other half is what a step asks the store for, which is one
thing at most, and for a task that has just come to need it (`Orders.fresh`).

Both halves are told of one step, with the callers, fetches, jobs and saves each looked at on their
own: most steps leave most of these rows as they are, so each lemma is a case analysis with few
cases that count. What the halves come to over a run is `Orderly`, at the end.
-/

set_option autoImplicit false

namespace ReadThrough

/-- The store is to run the errand. What a proxy asks for besides, that an origin is called, a clock
watched or a task woken, leaves nothing behind in the store. -/
def Errand.forStore : Errand → Bool
  | .read _ | .write _ | .delete _ => true
  | .wake _ | .ask _ | .limit _ => false

/-- The caller whom an event concerns. A request concerns none of those that are there, for its own
caller only comes with it, and what a fetch, a job or a save is told moves no caller: those that
wait for it are woken, and move when they are resumed. -/
def Event.caller? {ω : Type} : Event ω → Option Nat
  | .resume (.caller c) | .readAnswered c _ | .writeAnswered (.caller c) _ | .deleteAnswered c _
  | .limitPassed c | .limitCrashed c _ | .abandoned c => some c
  | .request _ | .resume _ | .originAnswered _ _ | .writeAnswered _ _ => none

/-! ## A job that has begun

It stays as it is until it ends, whatever is done to the pool meanwhile: a guard is given back, a
job is added, or another job is resumed or ends. -/

namespace Pool

variable {β : Type} {p q : Pool β} {i j : Nat} {x : Job β}

/-- A guard is counted, but it is no job. -/
theorem giveBack_jobs (p : Pool β) (guard : Nat) : (p.giveBack guard).1.jobs = p.jobs := by
  unfold giveBack
  split
  · exact lower_jobs _
  · rfl

/-- A new job comes to stand behind the others. -/
theorem spawn_stays {work : β} (at_ : p.jobs[j]? = some x) :
    (p.spawn work).1.jobs[j]? = some x := by
  rw [getElem?_spawn, if_neg (Nat.ne_of_lt (List.getElem?_eq_some_iff.1 at_).1)]
  exact at_

/-- A job is resumed to begin, so it is never one that has begun already. -/
theorem resume?_stays {starts : Bool} (resumed : p.resume? i = some (starts, q))
    (at_ : p.jobs[j]? = some x) (begun : x.stage = .running ∨ x.stage = .ended) :
    q.jobs[j]? = some x := by
  obtain ⟨jobs, -, -, -, ready⟩ := resume?_cases resumed
  have other : i ≠ j := by
    rintro rfl
    rcases begun with stage | stage <;> simp [stage?, at_, stage] at ready
  rw [jobs, getElem?_setStage, at_, Option.map_some, if_neg other]

/-- Where one job ends, its permit may let another begin, but only one that has not. This needs the
books in order: that whoever stands in the queue is at the stage of a job that queues is a part of
them. -/
theorem finish?_stays (h : p.Balanced) {wakes : List Wake}
    (finished : p.finish? i = some (q, wakes)) (at_ : p.jobs[j]? = some x)
    (begun : x.stage = .running ∨ x.stage = .ended) (other : i ≠ j) : q.jobs[j]? = some x := by
  obtain ⟨-, rfl, -⟩ := finish?_eq_some_iff.1 finished
  have stays : (p.setStage i .ended).jobs[j]? = some x := by
    rw [getElem?_setStage, at_, Option.map_some, if_neg other]
  rw [lower_jobs]
  unfold handOn
  split
  · exact stays
  case h_2 next rest hq =>
    -- Whoever is handed a permit was queueing for one.
    have ne : next ≠ j := by
      rintro rfl
      have queued := (h.permits.queued next).1 (by rw [show p.queue = next :: rest from hq]; simp)
      rcases begun with stage | stage <;> simp [stage?, at_, stage] at queued
    show ((p.setStage i .ended).setStage next .granted).jobs[j]? = some x
    rw [getElem?_setStage, stays, Option.map_some, if_neg ne]

end Pool

namespace Proxy

variable {ω : Type} {now : Moment} {p p' : Proxy ω}

/-! ## Who is concerned -/

/-- A caller is settled by an event of its own, be it an answer, its limit, or that it leaves. -/
theorem Settles.caller? {c : Nat} {x : Caller ω} {e : Event ω} {fx : List (Effect ω)}
    {s : Caller.Stage} (h : p.Settles now c x e fx s) : e.caller? = some c := by
  cases h with
  | told policy key origin flight r e looks known plain => rcases looks with rfl | rfl <;> rfl
  | _ => rfl

/-- To bring one caller to another stage leaves the others where they are. -/
theorem setStage_other {c d : Nat} {s : Caller.Stage} {x : Caller ω} (ne : c ≠ d)
    (at_ : p.callers[d]? = some x) : (p.setStage c s).callers[d]? = some x := by
  rw [getElem?_setStage, at_, Option.map_some, if_neg ne]

/-- A new caller comes to stand behind the others. -/
theorem addCaller_other {d : Nat} {r : Request ω} {s : Caller.Stage} {x : Caller ω}
    (at_ : p.callers[d]? = some x) : (p.addCaller r s).callers[d]? = some x := by
  rw [getElem?_addCaller, if_neg (Nat.ne_of_lt (List.getElem?_eq_some_iff.1 at_).1)]
  exact at_

/-- A caller is moved only by what concerns it. Where a step moves some caller, that is the one its
event concerns; all it does besides, to the flights or in the pool, leaves the row of callers alone
(`Boards.callers`). -/
theorem Step.others {e : Event ω} {fx : List (Effect ω)} (step : p.Step now e fx p') {d : Nat}
    {x : Caller ω} (at_ : p.callers[d]? = some x) (other : e.caller? ≠ some d) :
    p'.callers[d]? = some x := by
  have ne : ∀ {c : Nat}, e.caller? = some c → c ≠ d := by
    rintro c concerned rfl
    exact other concerned
  -- Three steps add a caller, the next six move the one concerned, and the others move none.
  cases step with
  | arrive r fx s how => exact addCaller_other at_
  | force policy key origin p₁ flight fx some_key forced how =>
    exact addCaller_other (by rw [how.callers]; exact at_)
  | drain => exact addCaller_other (p := { p with pool := _ }) at_
  | settle c y e fx s here how => exact setStage_other (ne how.caller?) at_
  | miss c policy key origin o p₁ flight fx here missing how =>
    exact setStage_other (ne rfl) (by rw [how.callers]; exact at_)
  | stale c policy key origin v p₁ flight fx here live old how =>
    exact setStage_other (p := { p₁ with pool := _ }) (ne rfl) (by rw [← how.callers] at at_; exact at_)
  | again c policy key origin flight a e here looks known forced joined =>
    have concerned : e.caller? = some c := by rcases looks with rfl | rfl <;> rfl
    exact setStage_other (p := { p with saves := _ }) (ne concerned) at_
  | drained c q w here woken idle => exact setStage_other (p := { p with pool := _ }) (ne rfl) at_
  | leaveDrain c q w here => exact setStage_other (p := { p with pool := _ }) (ne rfl) at_
  | parks | ask | store | passOn | failThrough | failBack | stored | queue | write | await | skip
  | endJob | save | saved => exact at_

/-- Callers are numbered as they come, and one that has left keeps its number. -/
theorem Step.callers_length_le {e : Event ω} {fx : List (Effect ω)} (step : p.Step now e fx p') :
    p.callers.length ≤ p'.callers.length := by
  cases step with
  | force policy key origin p₁ flight fx some_key forced how => simp [addCaller, how.callers]
  | miss c policy key origin o p₁ flight fx at_ missing how => simp [setStage, how.callers]
  | stale c policy key origin v p₁ flight fx at_ live old how => simp [setStage, how.callers]
  | arrive | drain => simp [addCaller]
  | settle | again | drained | leaveDrain => simp [setStage]
  | parks | ask | store | passOn | failThrough | failBack | stored | queue | write | await | skip
  | endJob | save | saved => exact Nat.le_refl _

/-- A caller is after a step as it was, or has just come, or has moved on from where it waited.
Whoever asks for nothing is answered at once. It is told from the state after the step, as an
invariant asks about whoever is found there. -/
theorem Step.caller_cases {e : Event ω} {fx : List (Effect ω)} (step : p.Step now e fx p')
    {c : Nat} {x : Caller ω} (at_ : p'.callers[c]? = some x) :
    p.callers[c]? = some x ∨
      (c = p.callers.length ∧ e = .request x.request ∧
        (x.request.key? = some "" → x.stage.isSettled = true)) ∨
      ∃ y, p.callers[c]? = some y ∧ y.request = x.request ∧ y.stage.isSettled = false := by
  -- The one that may have moved, and the one that may have come; each step has either or neither.
  have moved : ∀ {q : Proxy ω} {d : Nat} {s : Caller.Stage} {y : Caller ω},
      q.callers = p.callers → p.callers[d]? = some y → y.stage.isSettled = false →
      (q.setStage d s).callers[c]? = some x → p.callers[c]? = some x ∨
        ∃ y, p.callers[c]? = some y ∧ y.request = x.request ∧ y.stage.isSettled = false := by
    intro q d s y same here waits hx
    rcases getElem?_setStage_cases hx with ⟨rfl, z, hz, rfl⟩ | ⟨-, hx⟩
    · rw [same, here] at hz
      cases hz
      exact Or.inr ⟨y, here, rfl, waits⟩
    · rw [same] at hx
      exact Or.inl hx
  have came : ∀ {q : Proxy ω} {r : Request ω} {s : Caller.Stage}, q.callers = p.callers →
      (r.key? = some "" → s.isSettled = true) → (q.addCaller r s).callers[c]? = some x →
      p.callers[c]? = some x ∨ (c = p.callers.length ∧ r = x.request ∧
        (x.request.key? = some "" → x.stage.isSettled = true)) := by
    intro q r s same blank hx
    rw [getElem?_addCaller, same] at hx
    split at hx
    case isTrue last =>
      cases hx
      exact Or.inr ⟨last, rfl, blank⟩
    case isFalse => exact Or.inl hx
  cases step with
  | arrive r fx s how =>
    refine (came rfl ?_ at_).imp_right fun h => Or.inl ⟨h.1, congrArg _ h.2.1, h.2.2⟩
    cases how with
    | vacuous => exact fun _ => rfl
    | read policy key origin some_key | set policy key payload some_key | remove key some_key =>
      exact fun blank => absurd (Option.some.inj blank) some_key
  | force policy key origin p₁ flight fx some_key forced how =>
    refine (came how.callers ?_ at_).imp_right fun h => Or.inl ⟨h.1, congrArg _ h.2.1, h.2.2⟩
    exact fun blank => absurd (Option.some.inj blank) some_key
  | drain =>
    refine (came rfl ?_ at_).imp_right fun h => Or.inl ⟨h.1, congrArg _ h.2.1, h.2.2⟩
    exact fun blank => by cases blank
  | settle d y e fx s here how =>
    refine (moved rfl here ?_ at_).imp_right Or.inr
    cases how with
    | left y waits elsewhere => exact waits
    | unread | hit | told | gaveUp | crashed | saved | written | deleted => rfl
  | miss d policy key origin o p₁ flight fx here missing how =>
    exact (moved how.callers here rfl at_).imp_right Or.inr
  | stale d policy key origin v p₁ flight fx here live old how =>
    exact (moved how.callers here rfl at_).imp_right Or.inr
  | again d policy key origin flight a e here => exact (moved rfl here rfl at_).imp_right Or.inr
  | drained d q w here | leaveDrain d q w here => exact (moved rfl here rfl at_).imp_right Or.inr
  | parks | ask | store | passOn | failThrough | failBack | stored | queue | write | await | skip
  | endJob | save | saved => exact Or.inl at_

/-! ## Waiting for the store -/

/-- The task waits for this errand, or it is a caller that does not wait any more. A caller that
leaves while the store is at work for it makes no difference to the store, so the second case is not
a fault; but it is the only case in which nobody is there to be told. -/
def Wants (p : Proxy ω) (d : Errand) : Prop :=
  p.next? d.task = some d ∨ ∃ c, d.task = .caller c ∧ p.stage? c = some .gone

/-- Where a task stands that waits for the store. A read and a deletion are only ever for a caller;
a write can be for any kind of task, and what is to be written is found at the task itself except
for a caller, whose value went with the errand. -/
inductive AtStore (p : Proxy ω) : Errand → Prop
  | reading (c : Nat) (x : Caller ω) (at_ : p.callers[c]? = some x) (stage : x.stage = .reading) :
      AtStore p (.read c)
  | setting (c : Nat) (x : Caller ω) (at_ : p.callers[c]? = some x) (stage : x.stage = .writing) :
      AtStore p (.write (.caller c))
  | deleting (c : Nat) (x : Caller ω) (at_ : p.callers[c]? = some x)
      (stage : x.stage = .deleting) : AtStore p (.delete c)
  | storing (id : Nat) (f : Fetch (Plan ω)) (a : Fetched) (at_ : p.fetches.fetches[id]? = some f)
      (stage : f.stage = .storing a) : AtStore p (.write (.fetch id))
  | writing (j : Nat) (storeKey : String) (v : Value) (ttl : Duration)
      (at_ : p.pool.jobs[j]? = some ⟨.writeBack storeKey v ttl, .running⟩) :
      AtStore p (.write (.job j))
  | saving (i : Nat) (x : Save) (at_ : p.saves[i]? = some x) (stage : x.stage = .writing) :
      AtStore p (.write (.save i))

/-- These are just the places at which `next?` names an errand for the store. -/
theorem atStore_iff {d : Errand} (store : d.forStore = true) :
    p.next? d.task = some d ↔ p.AtStore d := by
  constructor
  · -- What a task needs is read off its stage; at the other stages it is nothing for the store.
    intro needed
    cases task : d.task with
    | caller c =>
      rw [task] at needed
      obtain ⟨x, at_, wake | ⟨stage, rfl⟩ | ⟨stage, rfl⟩ | ⟨stage, rfl⟩⟩ :=
        caller_of_needed needed
      · rw [wake] at store
        cases store
      · exact .reading c x at_ stage
      · exact .setting c x at_ stage
      · exact .deleting c x at_ stage
    | fetch id =>
      rw [task] at needed
      obtain ⟨⟨key, plan, s⟩, at_, needed⟩ := Option.bind_eq_some_iff.1 needed
      cases s with
      | storing a =>
        cases needed
        exact .storing id _ a at_ rfl
      | queued | asking =>
        cases needed
        cases store
      | ended => cases needed
    | job j =>
      rw [task] at needed
      obtain ⟨⟨work, s⟩, at_, needed⟩ := Option.bind_eq_some_iff.1 needed
      cases work with
      | writeBack storeKey v ttl =>
        cases s with
        | running =>
          cases needed
          exact .writing j storeKey v ttl at_
        | spawned | granted =>
          cases needed
          cases store
        | queued | ended => cases needed
      | refresh storeKey f =>
        cases s with
        | running =>
          simp only [jobNeeds?] at needed
          split at needed <;> cases needed
          cases store
        | spawned | granted =>
          cases needed
          cases store
        | queued | ended => cases needed
    | save i =>
      rw [task] at needed
      obtain ⟨⟨storeKey, v, ttl, s⟩, at_, needed⟩ := Option.bind_eq_some_iff.1 needed
      cases s with
      | writing =>
        cases needed
        exact .saving i _ at_ rfl
      | queued =>
        cases needed
        cases store
      | ended => cases needed
  · intro stands
    cases stands with
    | reading c x at_ stage | setting c x at_ stage | deleting c x at_ stage =>
      rw [Errand.task, next?_caller at_, stage]
      rfl
    | storing id f a at_ stage =>
      rw [Errand.task, next?_fetch at_, stage]
      rfl
    | writing j storeKey v ttl at_ =>
      rw [Errand.task, next?_job at_]
      rfl
    | saving i x at_ stage =>
      rw [Errand.task, next?_save at_, stage]
      rfl

/-! ## Whoever waits for the store goes on waiting -/

section Boards

variable {policy : Policy} {key : String} {origin : ω} {guarded : Bool} {p₁ : Proxy ω}
  {flight : Flight} {fx : List (Effect ω)}

/-- Whoever boards a flight may start a fetch, and moves none that is there. -/
theorem Boards.old_fetch (b : p.Boards policy key origin guarded p₁ flight fx) {id : Nat}
    {f : Fetch (Plan ω)} (at_ : p.fetches.fetches[id]? = some f) :
    p₁.fetches.fetches[id]? = some f := by
  cases b with
  | leadThrough | leadBack =>
    rw [Coalescer.getElem?_start, if_neg (Nat.ne_of_lt (List.getElem?_eq_some_iff.1 at_).1)]
    exact at_
  | joinThrough | joinBack => exact at_

/-- Whoever boards a flight starts no job, even where the fetch is to have one when it ends. -/
theorem Boards.jobs (b : p.Boards policy key origin guarded p₁ flight fx) :
    p₁.pool.jobs = p.pool.jobs := by
  cases b with
  | leadThrough | leadBack | joinThrough => rfl
  | joinBack => exact Pool.giveBack_jobs _ _

end Boards

section Step

variable {e : Event ω} {fx : List (Effect ω)}

/-- Whoever waits for another task needs to be woken if anything, which is nothing for the store. -/
theorem ne_of_wake {b : Prop} [Decidable b] {t : Task} {d : Errand} (store : d.forStore = true) :
    (if b then some (Errand.wake t) else none) ≠ some d := by
  split
  · rintro ⟨⟩
    cases store
  · simp

/-- A caller that waits for the store stays where it is until the store has answered, unless it
leaves. No limit moves it: clocks are watched only for callers that wait for a fetch. -/
theorem Step.caller_stays (step : p.Step now e fx p') {c : Nat} {x : Caller ω} {d : Errand}
    (at_ : p.callers[c]? = some x) (needs : p.callerNeeds? c x.stage = some d)
    (store : d.forStore = true) (unanswered : e.errand? ≠ some d) :
    p'.callers[c]? = some x ∨ p'.stage? c = some .gone := by
  by_cases concerned : e.caller? = some c
  case neg => exact Or.inl (step.others at_ concerned)
  -- What else concerns a caller that waits for the store is that it leaves.
  cases step with
  | arrive | force | drain | ask | store | passOn | failThrough | failBack | stored | queue | write
  | await | skip | save | saved => cases concerned
  | endJob j work e r pool₁ wakes here how finished => cases how <;> cases concerned
  | settle c' y e fx s here how =>
    have same : c' = c := Option.some.inj (how.caller?.symm.trans concerned)
    subst same
    rw [at_] at here
    cases here
    cases how with
    | left x waits elsewhere =>
      refine Or.inr ?_
      rw [stage?, callers_setStage _ at_, Option.map_some]
    | unread | hit | written | deleted =>
      cases needs
      exact absurd rfl unanswered
    | told | gaveUp | crashed | saved => exact absurd needs (ne_of_wake store)
  | miss c' policy key origin o p₁ flight fx here missing how =>
    cases concerned
    rw [at_] at here
    cases here
    cases needs
    exact absurd rfl unanswered
  | stale c' policy key origin v p₁ flight fx here live old how =>
    cases concerned
    rw [at_] at here
    cases here
    cases needs
    exact absurd rfl unanswered
  | again c' policy key origin flight a e here looks known forced joined =>
    have same : c' = c := by rcases looks with rfl | rfl <;> cases concerned <;> rfl
    subst same
    rw [at_] at here
    cases here
    exact absurd needs (ne_of_wake store)
  | drained c' q w here | parks c' q w here | leaveDrain c' q w here =>
    cases concerned
    rw [at_] at here
    cases here
    exact absurd needs (ne_of_wake store)

/-- A fetch whose value is being written stays so until the store has answered. Other steps move
other fetches, or this one at another stage; and no caller that leaves takes a fetch along. -/
theorem Step.storing_stays (step : p.Step now e fx p') {id : Nat} {f : Fetch (Plan ω)}
    {a : Fetched} (at_ : p.fetches.fetches[id]? = some f) (storing : f.stage = .storing a)
    (unanswered : e.errand? ≠ some (.write (.fetch id))) :
    p'.fetches.fetches[id]? = some f := by
  have ended : ∀ {i : Nat} {g : Fetch (Plan ω)} {r : Except Error Fetched}, i ≠ id →
      (p.fetches.finish g.key i r).fetches[id]? = some f := by
    intro i g r other
    rw [Coalescer.getElem?_finish, at_, Option.map_some, if_neg other]
  have moved : ∀ {i : Nat} {s : Fetch.Stage}, i ≠ id →
      (p.fetches.setStage i s).fetches[id]? = some f := by
    intro i s other
    rw [Coalescer.getElem?_setStage, at_, Option.map_some, if_neg other]
  -- A step that moves a fetch from some other stage moves another one.
  have apart : ∀ {i : Nat} {g : Fetch (Plan ω)}, p.fetches.fetches[i]? = some g →
      (∀ b, g.stage ≠ .storing b) → i ≠ id := by
    rintro i g here elsewhere rfl
    rw [at_] at here
    cases here
    exact elsewhere a storing
  cases step with
  | force policy key origin p₁ flight fx some_key forced how => exact how.old_fetch at_
  | miss c policy key origin o p₁ flight fx here missing how => exact how.old_fetch at_
  | stale c policy key origin v p₁ flight fx here live old how => exact how.old_fetch at_
  | ask i g here stage => exact moved (apart here (by simp [stage]))
  | store i g b policy storeKey here stage plan => exact moved (apart here (by simp [stage]))
  | passOn i g b policy storeKey guard pool₁ pool₂ spawned idle here stage plan spawn back =>
    exact ended (apart here (by simp [stage]))
  | failThrough i g r err here stage bad plan => exact ended (apart here (by simp [stage]))
  | failBack i g r err guard pool₁ idle here stage bad plan back =>
    exact ended (apart here (by simp [stage]))
  | stored i g b r here stage =>
    refine ended ?_
    rintro rfl
    exact unanswered rfl
  | arrive | drain | settle | again | drained | parks | leaveDrain | queue | write | await | skip
  | endJob | save | saved => exact at_

/-- A job that has begun stays as it is until its time has come; and one that is over stays so. The
books of the pool are needed where a permit changes hands, to know that it goes to a job that has
not begun. -/
theorem Step.begun_job (sane : p.Sane) (step : p.Step now e fx p') {j : Nat} {x : Job Work}
    (at_ : p.pool.jobs[j]? = some x) (begun : x.stage = .running ∨ x.stage = .ended) :
    p'.pool.jobs[j]? = some x ∨ (x.stage = .running ∧ ∃ r, p.Ends j e x.work r) := by
  cases step with
  | force policy key origin p₁ flight fx some_key forced how =>
    refine Or.inl ?_
    show p₁.pool.jobs[j]? = _
    rw [how.jobs]
    exact at_
  | miss c policy key origin o p₁ flight fx here missing how =>
    refine Or.inl ?_
    show p₁.pool.jobs[j]? = _
    rw [how.jobs]
    exact at_
  | stale c policy key origin v p₁ flight fx here live old how =>
    rw [← how.jobs] at at_
    exact Or.inl (Pool.spawn_stays at_)
  | passOn id f a policy storeKey guard pool₁ pool₂ spawned idle here stage plan spawn back =>
    refine Or.inl ?_
    show pool₂.jobs[j]? = _
    rw [show pool₂ = (pool₁.giveBack guard).1 by rw [back], Pool.giveBack_jobs]
    cases spawn
    exact Pool.spawn_stays at_
  | failBack id f r err guard pool₁ idle here stage bad plan back =>
    refine Or.inl ?_
    show pool₁.jobs[j]? = _
    rw [show pool₁ = (p.pool.giveBack guard).1 by rw [back], Pool.giveBack_jobs]
    exact at_
  | queue i pool₁ resumed => exact Or.inl (Pool.resume?_stays resumed at_ begun)
  | write i pool₁ _ _ _ resumed => exact Or.inl (Pool.resume?_stays resumed at_ begun)
  | await i pool₁ _ _ resumed => exact Or.inl (Pool.resume?_stays resumed at_ begun)
  | skip i pool₁ pool₂ storeKey f r wakes resumed here known finished =>
    -- What is resumed only now had not begun.
    have other : i ≠ j := by
      rintro rfl
      obtain ⟨-, -, -, -, ready⟩ := Pool.resume?_cases resumed
      rcases begun with stage | stage <;> simp [Pool.stage?, at_, stage] at ready
    have stays := Pool.resume?_stays resumed at_ begun
    exact Or.inl (Pool.finish?_stays (sane.balanced.resume? resumed) finished stays begun other)
  | endJob i work e r pool₁ wakes here how finished =>
    by_cases same : i = j
    · subst same
      rw [at_] at here
      cases here
      exact Or.inr ⟨rfl, r, how⟩
    · exact Or.inl (Pool.finish?_stays sane.balanced finished at_ begun same)
  | arrive | drain | settle | again | drained | parks | leaveDrain | ask | store | failThrough
  | stored | save | saved => exact Or.inl at_

/-- The time of a write has come when the store has answered it, and not before. -/
theorem Step.writing_stays (sane : p.Sane) (step : p.Step now e fx p') {j : Nat}
    {storeKey : String} {v : Value} {ttl : Duration}
    (at_ : p.pool.jobs[j]? = some ⟨.writeBack storeKey v ttl, .running⟩)
    (unanswered : e.errand? ≠ some (.write (.job j))) :
    p'.pool.jobs[j]? = some ⟨.writeBack storeKey v ttl, .running⟩ := by
  rcases step.begun_job sane at_ (Or.inl rfl) with stays | ⟨-, r, ends⟩
  · exact stays
  · cases ends
    exact absurd rfl unanswered

/-- A save is after a step as it was, or it is new, or it has come one stage further. Saves have no
pool and no limit, so nothing holds them up and nothing ends them but the store. -/
theorem Step.save_cases (step : p.Step now e fx p') {i : Nat} {x : Save}
    (at_ : p'.saves[i]? = some x) :
    p.saves[i]? = some x ∨ (p.saves[i]? = none ∧ x.stage = .queued) ∨
      ∃ y, p.saves[i]? = some y ∧
        ((y.stage = .queued ∧ x = { y with stage := .writing }) ∨
          (y.stage = .writing ∧ ∃ r, e = .writeAnswered (.save i) r ∧
            x = { y with stage := .ended (r.caught saveCrash) })) := by
  cases step with
  | force policy key origin p₁ flight fx some_key forced how => exact Or.inl (how.saves ▸ at_)
  | miss c policy key origin o p₁ flight fx here missing how => exact Or.inl (how.saves ▸ at_)
  | stale c policy key origin v p₁ flight fx here live old how => exact Or.inl (how.saves ▸ at_)
  | again c policy key origin flight a e here looks known forced joined =>
    change (p.saves ++ [_])[i]? = some x at at_
    rw [getElem?_append_singleton] at at_
    split at at_
    case isTrue last =>
      cases at_
      exact Or.inr (Or.inl ⟨List.getElem?_eq_none (Nat.le_of_eq last.symm), rfl⟩)
    case isFalse => exact Or.inl at_
  | save s y here stage =>
    rcases getElem?_set_cases at_ with ⟨rfl, rfl⟩ | ⟨-, same⟩
    · exact Or.inr (Or.inr ⟨y, here, Or.inl ⟨stage, rfl⟩⟩)
    · exact Or.inl same
  | saved s y r here stage =>
    rcases getElem?_set_cases at_ with ⟨rfl, rfl⟩ | ⟨-, same⟩
    · exact Or.inr (Or.inr ⟨y, here, Or.inr ⟨stage, r, rfl, rfl⟩⟩)
    · exact Or.inl same
  | arrive | drain | settle | drained | parks | leaveDrain | ask | store | passOn | failThrough
  | failBack | stored | queue | write | await | skip | endJob => exact Or.inl at_

/-- Saves are numbered as they come, too, and stay when they are over. -/
theorem Step.saves_length_le (step : p.Step now e fx p') : p.saves.length ≤ p'.saves.length := by
  cases step with
  | force policy key origin p₁ flight fx some_key forced how => exact Nat.le_of_eq (how.saves ▸ rfl)
  | miss c policy key origin o p₁ flight fx here missing how =>
    exact Nat.le_of_eq (how.saves ▸ rfl)
  | stale c policy key origin v p₁ flight fx here live old how =>
    exact Nat.le_of_eq (how.saves ▸ rfl)
  | again => simp [setStage]
  | save | saved => simp
  | arrive | drain | settle | drained | parks | leaveDrain | ask | store | passOn | failThrough
  | failBack | stored | queue | write | await | skip | endJob => exact Nat.le_refl _

/-- A save that has had its turn stays as it is until the store has answered it. `Step.save_cases`
is told from the state after the step, so the save there is compared with the one that stood in its
place before. -/
theorem Step.save_stays (step : p.Step now e fx p') {i : Nat} {x : Save}
    (at_ : p.saves[i]? = some x) (begun : x.stage ≠ .queued)
    (unanswered : x.stage = .writing → e.errand? ≠ some (.write (.save i))) :
    p'.saves[i]? = some x := by
  have there := Nat.lt_of_lt_of_le (List.getElem?_eq_some_iff.1 at_).1 step.saves_length_le
  have still := List.getElem?_eq_getElem there
  rcases step.save_cases still with same | ⟨none_there, -⟩ | ⟨y, before, queued | ⟨writing, r, rfl, -⟩⟩
  · rw [at_] at same
    rw [still, ← same]
  · rw [at_] at none_there
    cases none_there
  · rw [at_] at before
    cases before
    exact absurd queued.1 begun
  · rw [at_] at before
    cases before
    exact absurd rfl (unanswered writing)

/-- Whoever has left does not come back. Even an event that concerns it finds no stage at which it
could be taken, so this is more than `Step.others`. -/
theorem Step.gone_stays (step : p.Step now e fx p') {c : Nat} (gone : p.stage? c = some .gone) :
    p'.stage? c = some .gone := by
  obtain ⟨⟨q, s⟩, at_, rfl⟩ := Option.map_eq_some_iff.1 gone
  have stays : ∀ {d : Nat} {y : Caller ω}, p.callers[d]? = some y → y.stage ≠ .gone → d ≠ c := by
    rintro d y here elsewhere rfl
    rw [at_] at here
    cases here
    exact elsewhere rfl
  have unmoved : p'.callers[c]? = some ⟨q, .gone⟩ := by
    cases step with
    | arrive r fx s how => exact addCaller_other at_
    | force policy key origin p₁ flight fx some_key forced how =>
      exact addCaller_other (by rw [how.callers]; exact at_)
    | drain => exact addCaller_other (p := { p with pool := _ }) at_
    | settle d y e fx s here how =>
      refine setStage_other (stays here ?_) at_
      cases how with
      | left y waits elsewhere =>
        intro gone
        rw [gone] at waits
        cases waits
      | _ => simp
    | miss d policy key origin o p₁ flight fx here missing how =>
      exact setStage_other (stays here (by simp)) (by rw [how.callers]; exact at_)
    | stale d policy key origin v p₁ flight fx here live old how =>
      exact setStage_other (p := { p₁ with pool := _ }) (stays here (by simp))
        (by rw [← how.callers] at at_; exact at_)
    | again d policy key origin flight a e here looks known forced joined =>
      exact setStage_other (p := { p with saves := _ }) (stays here (by simp)) at_
    | drained d q w here woken idle =>
      exact setStage_other (p := { p with pool := _ }) (stays here (by simp)) at_
    | leaveDrain d q w here =>
      exact setStage_other (p := { p with pool := _ }) (stays here (by simp)) at_
    | parks | ask | store | passOn | failThrough | failBack | stored | queue | write | await
    | skip | endJob | save | saved => exact at_
  rw [stage?, unmoved, Option.map_some]

/-- A task that waits for the store waits on as long as the errand has not been reported back, be it
as somebody who is there no more. -/
theorem Step.wants (sane : p.Sane) (step : p.Step now e fx p') {d : Errand}
    (store : d.forStore = true) (wants : p.Wants d) (unanswered : e.errand? ≠ some d) :
    p'.Wants d := by
  rcases wants with needed | ⟨c, task, gone⟩
  case inr => exact Or.inr ⟨c, task, step.gone_stays gone⟩
  -- Read, write and deletion of a caller are alike: it stays where it is or has left.
  have caller : ∀ {c : Nat} {x : Caller ω}, p.callers[c]? = some x → d.task = .caller c →
      p'.Wants d := by
    intro c x at_ task
    have needs : p.callerNeeds? c x.stage = some d := by
      rw [task, next?_caller at_] at needed
      exact needed
    rcases step.caller_stays at_ needs store unanswered with same | gone
    · refine Or.inl ((atStore_iff store).2 ?_)
      cases (atStore_iff store).1 needed with
      | reading c y here stage | setting c y here stage | deleting c y here stage =>
        cases task
        rw [at_] at here
        cases here
        constructor <;> assumption
      | storing | writing | saving => cases task
    · exact Or.inr ⟨c, task, gone⟩
  cases (atStore_iff store).1 needed with
  | reading c x at_ stage | setting c x at_ stage | deleting c x at_ stage => exact caller at_ rfl
  | storing id f a at_ stage =>
    exact Or.inl ((atStore_iff store).2
      (.storing id f a (step.storing_stays at_ stage unanswered) stage))
  | writing j storeKey v ttl at_ =>
    exact Or.inl ((atStore_iff store).2
      (.writing j storeKey v ttl (step.writing_stays sane at_ unanswered)))
  | saving i x at_ stage =>
    exact Or.inl ((atStore_iff store).2
      (.saving i x (step.save_stays at_ (by simp [stage]) fun _ => unanswered) stage))

/-! ## Nothing is asked for twice -/

/-- What only wakes, watches or takes down asks nothing of the store. -/
theorem forStore_eq_false {d : Errand} {fx : List (Effect ω)}
    (elsewhere : ∀ x ∈ fx, (∃ t, x = .wake t) ∨ (∃ c l, x = .limit c l) ∨ ∃ line, x = .log line)
    (h : d ∈ errands fx) : d.forStore = false := by
  obtain ⟨x, hx, asked⟩ := mem_errands.1 h
  rcases elsewhere x hx with ⟨t, rfl⟩ | ⟨c, l, rfl⟩ | ⟨line, rfl⟩
  · cases asked
    rfl
  · cases asked
    rfl
  · cases asked

/-- The steps that ask the store for something, each with the one effect that it has. Callers ask as
they come, a fetch when its origin has answered and it is to write, a job and a save when their turn
has come. -/
inductive Orders (now : Moment) (p : Proxy ω) : Event ω → Effect ω → Proxy ω → Prop
  | arrive (r : Request ω) (x : Effect ω) (s : Caller.Stage) (how : p.Arrives now r [x] s) :
      Orders now p (.request r) x (p.addCaller r s)
  | store (id : Nat) (f : Fetch (Plan ω)) (a : Fetched) (policy : Policy) (storeKey : String)
      (at_ : p.fetches.fetches[id]? = some f) (stage : f.stage = .asking)
      (plan : f.plan.after = .writeThrough policy storeKey) :
      Orders now p (.originAnswered id (.ok a))
        (.write (.fetch id) storeKey (a.stamp now) (policy.ttlFor a.payload))
        { p with fetches := p.fetches.setStage id (.storing a) }
  | write (j : Nat) (pool₁ : Pool Work) (storeKey : String) (v : Value) (ttl : Duration)
      (resumed : p.pool.resume? j = some (true, pool₁))
      (at_ : pool₁.jobs[j]? = some ⟨.writeBack storeKey v ttl, .running⟩) :
      Orders now p (.resume (.job j)) (.write (.job j) storeKey v ttl) { p with pool := pool₁ }
  | save (i : Nat) (x : Save) (at_ : p.saves[i]? = some x) (stage : x.stage = .queued) :
      Orders now p (.resume (.save i)) (.write (.save i) x.storeKey x.value x.ttl)
        { p with saves := p.saves.set i { x with stage := .writing } }

/-- A step that asks the store for something is one of these, and asks for nothing else. Of all the
other steps it is enough to know what kinds of effects they can have: they wake tasks, set limits
and take down failures. -/
theorem Step.orders (step : p.Step now e fx p') {d : Errand} (store : d.forStore = true)
    (new : d ∈ errands fx) : ∃ x, fx = [x] ∧ x.errand? = some d ∧ p.Orders now e x p' := by
  have only : ∀ {x : Effect ω}, d ∈ errands [x] → x.errand? = some d := by
    intro x h
    obtain ⟨y, hy, asked⟩ := mem_errands.1 h
    rw [List.mem_singleton.1 hy] at asked
    exact asked
  have nothing : ∀ {gx : List (Effect ω)}, (∀ x ∈ gx, (∃ t, x = .wake t) ∨
      (∃ c l, x = .limit c l) ∨ ∃ line, x = .log line) → d ∉ errands gx := by
    intro gx elsewhere h
    rw [forStore_eq_false elsewhere h] at store
    cases store
  have waking : ∀ {x : Effect ω}, (∃ t, x = .wake t) → (∃ t, x = .wake t) ∨
      (∃ c l, x = .limit c l) ∨ ∃ line, x = .log line := Or.inl
  have watching : ∀ {c : Nat} {policy : Policy} {x : Effect ω}, x ∈ limitOf c policy →
      (∃ t, x = .wake t) ∨ (∃ c l, x = .limit c l) ∨ ∃ line, x = .log line := by
    intro c policy x hx
    obtain ⟨l, rfl, -⟩ := limit_of_mem_limitOf hx
    exact Or.inr (Or.inl ⟨c, l, rfl⟩)
  have noting : ∀ {work : Work} {r : Outcome Unit} {x : Effect ω}, x ∈ endLog work r →
      (∃ t, x = .wake t) ∨ (∃ c l, x = .limit c l) ∨ ∃ line, x = .log line :=
    fun hx => Or.inr (Or.inr (log_of_mem_endLog hx))
  cases step with
  | arrive r fx s how =>
    cases how with
    | vacuous => cases new
    | read policy key origin some_key gentle =>
      exact ⟨_, rfl, only new, .arrive _ _ _ (.read policy key origin some_key gentle)⟩
    | set policy key payload some_key =>
      exact ⟨_, rfl, only new, .arrive _ _ _ (.set policy key payload some_key)⟩
    | remove key some_key => exact ⟨_, rfl, only new, .arrive _ _ _ (.remove key some_key)⟩
  | store id f a policy storeKey at_ stage plan =>
    exact ⟨_, rfl, only new, .store id f a policy storeKey at_ stage plan⟩
  | write j pool₁ storeKey v ttl resumed at_ =>
    exact ⟨_, rfl, only new, .write j pool₁ storeKey v ttl resumed at_⟩
  | save i x at_ stage => exact ⟨_, rfl, only new, .save i x at_ stage⟩
  | ask id f at_ stage =>
    cases List.mem_singleton.1 new
    cases store
  | force policy key origin p₁ flight fx some_key forced how =>
    refine absurd new (nothing fun x hx => ?_)
    exact (List.mem_append.1 hx).elim (fun h => waking (how.wakes h)) watching
  | miss c policy key origin o p₁ flight fx at_ missing how =>
    refine absurd new (nothing fun x hx => ?_)
    exact (List.mem_append.1 hx).elim (fun h => waking (how.wakes h)) watching
  | stale c policy key origin v p₁ flight fx at_ live old how =>
    refine absurd new (nothing fun x hx => ?_)
    exact (List.mem_append.1 hx).elim (fun h => waking (how.wakes h))
      fun h => waking ⟨_, List.mem_singleton.1 h⟩
  | settle c x e fx s at_ how =>
    refine absurd new (nothing fun x hx => ?_)
    cases how with
    | gaveUp => exact Or.inr (Or.inr ⟨_, List.mem_singleton.1 hx⟩)
    | unread | hit | told | crashed | saved | written | deleted | left => cases hx
  | again => exact absurd new (nothing fun x hx => waking ⟨_, List.mem_singleton.1 hx⟩)
  | passOn | failBack =>
    refine absurd new (nothing fun x hx => waking ?_)
    exact (List.mem_append.1 hx).elim wake_of_mem_poolWakes wake_of_mem_fetchWakes
  | failThrough | stored => exact absurd new (nothing fun x hx => waking (wake_of_mem_fetchWakes hx))
  | skip | endJob =>
    refine absurd new (nothing fun x hx => ?_)
    exact (List.mem_append.1 hx).elim noting fun h => waking (wake_of_mem_poolWakes h)
  | saved =>
    refine absurd new (nothing fun x hx => waking ?_)
    obtain ⟨c, -, rfl⟩ := List.mem_map.1 hx
    exact ⟨_, rfl⟩
  | drain | drained | parks | leaveDrain | queue | await => cases new

/-- What the store is asked for, nobody has waited for before, and a task waits for it now. So it
cannot be due already, and from now on it is wanted. -/
theorem Orders.fresh {x : Effect ω} (orders : p.Orders now e x p') {d : Errand}
    (asked : x.errand? = some d) : ¬p.Wants d ∧ p'.AtStore d := by
  -- A task that has only just come to this stage needed something else before, and had not left.
  have unwanted : p.next? d.task ≠ some d →
      (∀ c, d.task = .caller c → p.stage? c ≠ some .gone) → ¬p.Wants d := by
    rintro idle here (needed | ⟨c, task, gone⟩)
    · exact idle needed
    · exact here c task gone
  cases orders with
  | arrive r x s how =>
    have come : (p.addCaller r s).callers[p.callers.length]? = some ⟨r, s⟩ := by
      rw [getElem?_addCaller, if_pos rfl]
    cases how with
    | read | set | remove =>
      cases asked
      refine ⟨unwanted ?_ ?_, ?_⟩
      · simp [Errand.task, next?]
      · intro c task
        cases task
        simp [stage?]
      · constructor
        · exact come
        · rfl
  | store id f a policy storeKey at_ stage plan =>
    cases asked
    refine ⟨unwanted ?_ (fun c task => by cases task),
      .storing id { f with stage := .storing a } a ?_ rfl⟩
    · rw [Errand.task, next?_fetch at_, stage]
      simp [Fetch.Stage.needs?]
    · rw [Coalescer.getElem?_setStage, at_, Option.map_some, if_pos rfl]
  | write j pool₁ storeKey v ttl resumed at_ =>
    cases asked
    refine ⟨unwanted ?_ (fun c task => by cases task), .writing j storeKey v ttl at_⟩
    -- A job that starts has been waiting for its turn.
    rcases (Pool.resume?_cases resumed).2.2.2.2 with ready | ready <;>
      obtain ⟨⟨work, st⟩, here, rfl⟩ := Pool.stage?_eq_some ready <;>
      rw [Errand.task, next?_job here] <;> cases work <;> simp [jobNeeds?]
  | save i y at_ stage =>
    cases asked
    have there := (List.getElem?_eq_some_iff.1 at_).1
    refine ⟨unwanted ?_ (fun c task => by cases task),
      .saving i { y with stage := .writing } (by simp [there]) rfl⟩
    rw [Errand.task, next?_save at_, stage]
    simp [Save.Stage.needs?]

end Step

end Proxy

namespace Scene

variable {ω : Type} {s : Scene ω}

/-- What the store is to do is due once, and a task waits for it, or has left. The second half is
what keeps the first: an errand that is due is wanted, and what is asked for was not wanted before.
-/
def Orderly (s : Scene ω) : Prop :=
  ∀ d, d.forStore = true → d ∈ s.due → s.due.count d = 1 ∧ s.proxy.Wants d

/-- Nothing becomes due by being reported back. -/
theorem mem_of_mem_left {e : Event ω} {due : List Errand} {d : Errand}
    (h : d ∈ e.errand?.elim due due.erase) : d ∈ due := by
  cases run : e.errand? with
  | none =>
    rw [run] at h
    exact h
  | some r =>
    rw [run] at h
    exact List.mem_of_mem_erase h

/-- What has been reported back is due no more, and what is still due is due as often. -/
theorem Orderly.left (h : s.Orderly) {e : Event ω} {d : Errand} (store : d.forStore = true)
    (due : d ∈ e.errand?.elim s.due s.due.erase) :
    e.errand? ≠ some d ∧ (e.errand?.elim s.due s.due.erase).count d = 1 := by
  have once := (h d store (mem_of_mem_left due)).1
  cases run : e.errand? with
  | none => exact ⟨by simp, once⟩
  | some r =>
    rw [run] at due
    have other : r ≠ d := by
      rintro rfl
      have still := List.count_pos_iff.2 due
      rw [Option.elim_some, List.count_erase_self, once] at still
      exact Nat.lt_irrefl 0 still
    refine ⟨fun same => other (Option.some.inj same), ?_⟩
    rw [Option.elim_some, List.count_erase_of_ne other.symm, once]

/-- One event keeps the order. A new errand is due once because it was not wanted, and an old one is
due as often as it was because a step does not ask for what is wanted. -/
theorem Orderly.act (h : s.Orderly) (sane : s.proxy.Sane) (now : Moment) (e : Event ω) :
    (s.act now e).Orderly := by
  rcases s.act_cases now e with ⟨-, same⟩ | ⟨p, fx, -, taken, acted⟩
  · rw [same]
    intro d store due
    exact ⟨(h.left store due).2, (h d store (mem_of_mem_left due)).2⟩
  · rw [acted]
    intro d store due
    show (e.errand?.elim s.due s.due.erase ++ errands fx).count d = 1 ∧ p.Wants d
    rw [List.count_append]
    by_cases new : d ∈ errands fx
    · obtain ⟨x, rfl, asked, orders⟩ := taken.orders store new
      obtain ⟨unwanted, stands⟩ := orders.fresh asked
      have old : d ∉ e.errand?.elim s.due s.due.erase :=
        fun due => unwanted (h d store (mem_of_mem_left due)).2
      refine ⟨?_, Or.inl ((Proxy.atStore_iff store).2 stands)⟩
      rw [List.count_eq_zero.2 old]
      simp [errands, asked]
    · have old := (List.mem_append.1 due).resolve_right new
      obtain ⟨unanswered, once⟩ := h.left store old
      refine ⟨?_, taken.wants sane store (h d store (mem_of_mem_left old)).2 unanswered⟩
      rw [once, List.count_eq_zero.2 new]

/-- Over any run the store is asked for nothing twice, and for nothing that no task waits for, in
whatever order errands are run and reported. That the proxy is sane goes along in the induction, for
one step needs it. -/
theorem orderly_run (keys : KeyScheme) (maxTasks : Nat) (es : List (Moment × Event ω)) :
    ((start keys maxTasks).run es).Orderly := by
  have both : ((start keys maxTasks).run es).proxy.Sane ∧ ((start keys maxTasks).run es).Orderly :=
    run_induction (P := fun s => s.proxy.Sane ∧ s.Orderly)
      (fun _ now e h => ⟨act_sane h.1 now e, h.2.act h.1 now e⟩)
      ⟨sane_start keys maxTasks, fun d _ due => by simp [start] at due⟩ es
  exact both.2

end Scene

end ReadThrough
