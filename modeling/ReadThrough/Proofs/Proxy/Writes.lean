import ReadThrough.Proofs.Proxy.Leaders

/-!
# What is written, and why

A write of the store begins with an effect. Before that it may wait: as a job of the pool that
has no permit yet, or as a save that has not had its turn. `writesOf` reads the writes off the
effects, `queued` reads the waiting ones off the state.

On the other side stands what a write is for (`Cause`): a caller sets a value; a fetch gets its
answer; a forced lookup that joined a fetch gets that answer as well. A cause says under which
key, with which payload and mark, and for how long something is to be written (`Cause.write`).

The two sides balance in every step (`Step.books`): what a step begins and leaves waiting is what
waited before and what the step gave cause for, nothing more and nothing less.
-/

set_option autoImplicit false

namespace ReadThrough

structure Write where
  storeKey : String
  value : Value
  ttl : Duration
  deriving DecidableEq, Repr

/-- What gives cause for a write. -/
inductive Way where
  /-- A caller sets the value. -/
  | set
  /-- The origin answers a fetch that a call in this role leads. -/
  | led (fetch : Nat) (role : Role)
  /-- A forced lookup gets the answer of a fetch that it joined. -/
  | joined (fetch : Nat)
  deriving DecidableEq, Repr

/-- A cause for a write: in which way, on whose policy, what, and when. -/
structure Cause where
  way : Way
  policy : Policy
  key : String
  payload : String
  volatile : Bool
  moment : Moment

def Cause.fetch? (c : Cause) : Option Nat :=
  match c.way with
  | .set => none
  | .led fetch _ | .joined fetch => some fetch

/-- The write that there is cause for. -/
def Cause.write (keys : KeyScheme) (c : Cause) : Write where
  storeKey := keys.build c.key
  value :=
    { createdAt := some c.moment, volatile := c.volatile, absent := false, payload := c.payload }
  ttl := c.policy.ttlFor c.payload

/-- The write that an effect begins. -/
def Effect.write? {ω : Type} : Effect ω → Option Write
  | write _ storeKey value ttl => some ⟨storeKey, value, ttl⟩
  | _ => none

def writesOf {ω : Type} (fx : List (Effect ω)) : List Write := fx.filterMap Effect.write?

def Work.write? : Work → Option Write
  | writeBack storeKey value ttl => some ⟨storeKey, value, ttl⟩
  | refresh _ _ => none

def Job.Stage.waits : Job.Stage → Bool
  | .spawned | .queued | .granted => true
  | .running | .ended => false

/-- The write that a job has not begun yet. -/
def Job.write? (x : Job Work) : Option Write := if x.stage.waits then x.work.write? else none

/-- The write that a save has not begun yet. -/
def Save.write? (x : Save) : Option Write :=
  match x.stage with
  | .queued => some ⟨x.storeKey, x.value, x.ttl⟩
  | _ => none

/-- The writes that wait for a permit. -/
def Pool.backlog (p : Pool Work) : List Write := p.jobs.filterMap Job.write?

theorem writesOf_append {ω : Type} (fx gx : List (Effect ω)) :
    writesOf (fx ++ gx) = writesOf fx ++ writesOf gx := List.filterMap_append

theorem writesOf_eq_nil {ω : Type} {fx : List (Effect ω)} (h : ∀ x ∈ fx, x.write? = none) :
    writesOf fx = [] := List.filterMap_eq_nil_iff.2 h

/-! ## The backlog of a pool -/

namespace Pool

variable {p q : Pool Work}

theorem backlog_setStage {j : Nat} {s s' : Job.Stage} (h : p.stage? j = some s)
    (same : s'.waits = s.waits) : (p.setStage j s').backlog = p.backlog := by
  obtain ⟨x, hx, rfl⟩ := stage?_eq_some h
  obtain ⟨l₁, l₂, split, modified⟩ := exists_split_modify hx fun x => { x with stage := s' }
  have write : Job.write? { x with stage := s' } = x.write? := by simp [Job.write?, same]
  rw [backlog, setStage, modified, backlog, split, List.filterMap_append, List.filterMap_append,
    List.filterMap_cons, List.filterMap_cons, write]

/-- A job starts, and its write, if it has one, does not wait any more. -/
theorem backlog_start {j : Nat} {x : Job Work} (hx : p.jobs[j]? = some x)
    (waits : x.stage.waits = true) :
    p.backlog.Perm (x.work.write?.toList ++ (p.setStage j .running).backlog) := by
  obtain ⟨l₁, l₂, split, modified⟩ := exists_split_modify hx fun x => { x with stage := .running }
  have before : x.write? = x.work.write? := by simp [Job.write?, waits]
  have after : Job.write? { x with stage := .running } = none := rfl
  rw [backlog, setStage, modified, backlog, split, List.filterMap_append, List.filterMap_append,
    List.filterMap_cons, List.filterMap_cons, before, after]
  cases x.work.write? with
  | none => exact .refl _
  | some w => exact List.perm_middle

theorem backlog_congr (h : q.jobs = p.jobs) : q.backlog = p.backlog := by rw [backlog, h, backlog]

theorem backlog_lower (p : Pool Work) : p.lower.1.backlog = p.backlog :=
  backlog_congr (lower_jobs p)

theorem backlog_giveBack (p : Pool Work) (guard : Nat) :
    (p.giveBack guard).1.backlog = p.backlog := by
  unfold giveBack
  split
  · exact backlog_lower _
  · rfl

theorem backlog_spawn (p : Pool Work) (work : Work) :
    (p.spawn work).1.backlog = p.backlog ++ work.write?.toList := by
  show List.filterMap Job.write? (p.jobs ++ [⟨work, .spawned⟩]) = _
  rw [List.filterMap_append]
  have new : Job.write? ⟨work, .spawned⟩ = work.write? := rfl
  cases h : work.write? <;> simp [new, h, backlog]

theorem backlog_handOn (books : ∀ j ∈ p.queue, p.stage? j = some .queued) :
    p.handOn.1.backlog = p.backlog := by
  unfold handOn
  cases hq : p.queue with
  | nil => rfl
  | cons next rest => exact backlog_setStage (books next (by rw [hq]; simp)) rfl

theorem backlog_finish? (h : p.Balanced) {j : Nat} {wakes : List Wake}
    (finished : p.finish? j = some (q, wakes)) : q.backlog = p.backlog := by
  obtain ⟨running, rfl, -⟩ := finish?_eq_some_iff.1 finished
  rw [backlog_lower, backlog_handOn fun i => ((h.retire running).1.queued i).1]
  exact backlog_setStage running rfl

theorem backlog_queue {j : Nat} (resumed : p.resume? j = some (false, q)) :
    q.backlog = p.backlog := by
  obtain ⟨jobs, -, -, -, stage⟩ := resume?_cases resumed
  rw [backlog_congr jobs]
  rcases stage with stage | stage <;> exact backlog_setStage stage rfl

theorem backlog_resume? {j : Nat} {work : Work} (resumed : p.resume? j = some (true, q))
    (at_ : q.jobs[j]? = some ⟨work, .running⟩) :
    p.backlog.Perm (work.write?.toList ++ q.backlog) := by
  obtain ⟨jobs, -, -, -, stage⟩ := resume?_cases resumed
  obtain ⟨x, hx, waits⟩ : ∃ x, p.jobs[j]? = some x ∧ x.stage.waits = true := by
    rcases stage with stage | stage <;> obtain ⟨x, hx, e⟩ := stage?_eq_some stage <;>
      exact ⟨x, hx, by rw [e]; rfl⟩
  rw [jobs, getElem?_setStage, hx] at at_
  simp only [Option.map_some, if_true, Option.some.injEq] at at_
  cases at_
  rw [backlog_congr jobs]
  exact backlog_start hx waits

end Pool

namespace Proxy

variable {ω : Type} {now : Moment} {p p' : Proxy ω}

/-- The writes that have not begun: jobs without a permit, and saves before their turn. -/
def queued (p : Proxy ω) : List Write := p.pool.backlog ++ p.saves.filterMap Save.write?

/-- The cause that a forced lookup has when it looks and finds the fetch over that it joined. -/
def again? (now : Moment) (p : Proxy ω) (c : Nat) : Option Cause :=
  match p.callers[c]? with
  | some ⟨.lookup policy key _, .waiting flight⟩ =>
    match p.fetches.result? flight.fetch with
    | some (.ok a) =>
      if policy.force ∧ flight.leader = false then
        some ⟨.joined flight.fetch, policy, key, a.payload, a.volatile, now⟩
      else none
    | _ => none
  | _ => none

/-- What an event gives cause to write, by who leads which fetch. -/
def cause? (now : Moment) (p : Proxy ω) (lead : Nat → Option (Wish ω)) : Event ω → Option Cause
  | .request (.set policy key payload) =>
    if key = "" then none else some ⟨.set, policy, key, payload, false, now⟩
  | .originAnswered id (.ok a) =>
    (lead id).map fun w => ⟨.led id w.role, w.policy, w.key, a.payload, a.volatile, now⟩
  | .resume (.caller c) | .limitPassed c => p.again? now c
  | _ => none

/-- A forced lookup writes again what a fetch that it joined has brought. -/
theorem again?_eq_some {i : Nat} {c : Cause} (h : p.again? now i = some c) :
    ∃ (policy : Policy) (key : String) (origin : ω) (flight : Flight) (a : Fetched),
      p.callers[i]? = some ⟨.lookup policy key origin, .waiting flight⟩ ∧
      p.fetches.result? flight.fetch = some (.ok a) ∧
      c = ⟨.joined flight.fetch, policy, key, a.payload, a.volatile, now⟩ := by
  unfold again? at h
  split at h
  case h_1 policy key origin flight at_ =>
    split at h
    case h_1 a known =>
      split at h <;> cases h
      exact ⟨policy, key, origin, flight, a, at_, known, rfl⟩
    case h_2 => cases h
  case h_2 => cases h

theorem cause?_cases {lead : Nat → Option (Wish ω)} {e : Event ω} {c : Cause}
    (h : p.cause? now lead e = some c) :
    (∃ policy key payload, e = .request (.set policy key payload) ∧ key ≠ "" ∧
      c = ⟨.set, policy, key, payload, false, now⟩) ∨
    (∃ id a w, e = .originAnswered id (.ok a) ∧ lead id = some w ∧
      c = ⟨.led id w.role, w.policy, w.key, a.payload, a.volatile, now⟩) ∨
    ∃ i, p.again? now i = some c := by
  cases e with
  | request r =>
    cases r with
    | set policy key payload =>
      simp only [cause?] at h
      split at h
      case isTrue => cases h
      case isFalse some_key =>
        cases h
        exact Or.inl ⟨policy, key, payload, rfl, some_key, rfl⟩
    | lookup | remove | drain => cases h
  | resume task =>
    cases task with
    | caller i => exact Or.inr (Or.inr ⟨i, h⟩)
    | fetch | job | save => cases h
  | limitPassed i => exact Or.inr (Or.inr ⟨i, h⟩)
  | originAnswered id r =>
    cases r with
    | ok a =>
      obtain ⟨w, hw, rfl⟩ := Option.map_eq_some_iff.1 h
      exact Or.inr (Or.inl ⟨id, a, w, rfl, hw, rfl⟩)
    | failed | crashed => cases h
  | readAnswered | writeAnswered | deleteAnswered | limitCrashed | abandoned => cases h

theorem perm_set_save {s : Nat} {x y : Save} (at_ : p.saves[s]? = some x)
    (begun : y.write? = none) : (p.saves.filterMap Save.write?).Perm
      (x.write?.toList ++ (p.saves.set s y).filterMap Save.write?) := by
  obtain ⟨there, rfl⟩ := List.getElem?_eq_some_iff.1 at_
  obtain ⟨l₁, l₂, split, -, modified⟩ :
      ∃ l₁ l₂, p.saves = l₁ ++ p.saves[s] :: l₂ ∧ l₁.length = s ∧ p.saves.set s y = l₁ ++ y :: l₂ :=
    List.exists_of_set there
  rw [modified, List.filterMap_append, List.filterMap_cons, begun]
  conv => lhs; rw [split, List.filterMap_append, List.filterMap_cons]
  cases p.saves[s].write? with
  | none => exact .refl _
  | some w => exact List.perm_middle

/-! ## Waking, watching and noting is not writing -/

theorem writesOf_poolWakes (p : Proxy ω) (wakes : List Wake) :
    writesOf (p.poolWakes wakes) = [] := by
  refine writesOf_eq_nil ?_
  intro x hx
  obtain ⟨t, rfl⟩ := wake_of_mem_poolWakes hx
  rfl

theorem writesOf_fetchWakes (p : Proxy ω) (id : Nat) : writesOf (p.fetchWakes id) = [] := by
  refine writesOf_eq_nil ?_
  intro x hx
  obtain ⟨t, rfl⟩ := wake_of_mem_fetchWakes hx
  rfl

theorem writesOf_limitOf (c : Nat) (policy : Policy) :
    writesOf (limitOf c policy : List (Effect ω)) = [] := by
  refine writesOf_eq_nil ?_
  intro x hx
  obtain ⟨limit, rfl, -⟩ := limit_of_mem_limitOf hx
  rfl

theorem writesOf_endLog (work : Work) (r : Outcome Unit) :
    writesOf (endLog work r : List (Effect ω)) = [] := by
  refine writesOf_eq_nil ?_
  intro x hx
  obtain ⟨line, rfl⟩ := log_of_mem_endLog hx
  rfl

/-! ## Coming to a flight is not writing -/

section Boards

variable {policy : Policy} {key : String} {origin : ω} {guarded : Bool} {p₁ : Proxy ω}
  {flight : Flight} {fx : List (Effect ω)}

theorem Boards.writesOf_eq_nil (b : p.Boards policy key origin guarded p₁ flight fx) :
    writesOf fx = [] := by
  apply ReadThrough.writesOf_eq_nil
  intro x hx
  obtain ⟨t, rfl⟩ := b.wakes hx
  rfl

theorem Boards.queued (b : p.Boards policy key origin guarded p₁ flight fx) :
    p₁.queued = p.queued := by
  cases b with
  | leadThrough | leadBack | joinThrough => rfl
  | joinBack =>
    show Pool.backlog _ ++ _ = _
    rw [Pool.backlog_giveBack]
    rfl

end Boards

/-! ## The books balance -/

/-- What a step begins and leaves waiting, against what waited before and what there is cause
for. -/
def Books (now : Moment) (p : Proxy ω) (lead : Nat → Option (Wish ω)) (e : Event ω)
    (fx : List (Effect ω)) (p' : Proxy ω) : Prop :=
  ((p.cause? now lead e).toList.map (Cause.write p.keys) ++ p.queued).Perm
    (writesOf fx ++ p'.queued)

section Books

variable {lead : Nat → Option (Wish ω)} {e : Event ω} {fx : List (Effect ω)} {c : Cause}

theorem Books.of_none (cause : p.cause? now lead e = none)
    (moved : p.queued.Perm (writesOf fx ++ p'.queued)) : p.Books now lead e fx p' := by
  unfold Books
  rw [cause]
  exact moved

theorem Books.of_same (cause : p.cause? now lead e = none) (nothing : writesOf fx = [])
    (same : p'.queued = p.queued) : p.Books now lead e fx p' := by
  refine .of_none cause ?_
  rw [nothing, same]
  exact .refl _

theorem Books.of_begun (cause : p.cause? now lead e = some c)
    (begins : writesOf fx = [c.write p.keys]) (same : p'.queued = p.queued) :
    p.Books now lead e fx p' := by
  unfold Books
  rw [cause, begins, same]
  exact .refl _

theorem Books.of_queued (cause : p.cause? now lead e = some c) (nothing : writesOf fx = [])
    (more : p'.queued.Perm (c.write p.keys :: p.queued)) : p.Books now lead e fx p' := by
  unfold Books
  rw [cause, nothing]
  exact more.symm

theorem Arrives.books {r : Request ω} {s : Caller.Stage} (h : p.Arrives now r fx s) :
    p.Books now lead (.request r) fx (p.addCaller r s) := by
  cases h with
  | vacuous r a blank =>
    refine .of_same ?_ rfl rfl
    cases r with
    | set policy key payload =>
      cases blank
      rfl
    | lookup | remove | drain => rfl
  | read | remove => exact .of_same rfl rfl rfl
  | set policy key payload some_key => exact .of_begun (if_neg some_key) rfl rfl

theorem Settles.cause? {c : Nat} {x : Caller ω} {s : Caller.Stage}
    (at_ : p.callers[c]? = some x) (h : p.Settles now c x e fx s) :
    p.cause? now lead e = none := by
  cases h with
  | told policy key origin flight r e looks known plain =>
    -- Whoever is told and writes nothing is not forced, or led the fetch itself.
    have nothing : p.again? now c = none := by
      simp only [again?, at_, known]
      cases r with
      | error err => rfl
      | ok a =>
        have own := plain a rfl
        exact if_neg fun writes => by simp [writes] at own
    rcases looks with rfl | rfl <;> exact nothing
  | gaveUp policy key origin flight limit set running =>
    simp [Proxy.cause?, again?, at_, running]
  | saved => simp [Proxy.cause?, again?, at_]
  | unread | hit | crashed | written | deleted | left => rfl

theorem Settles.writesOf_eq_nil {c : Nat} {x : Caller ω} {s : Caller.Stage}
    (h : p.Settles now c x e fx s) : writesOf fx = [] := by
  cases h <;> rfl

/-- What a fetch has its leader's answer written as. -/
theorem write_of_suits {id : Nat} {w : Wish ω} {f : Fetch (Plan ω)} (suits : w.Suits p.keys f)
    (a : Fetched) :
    Cause.write p.keys ⟨.led id w.role, w.policy, w.key, a.payload, a.volatile, now⟩ =
      ⟨f.plan.after.storeKey, a.stamp now, f.plan.after.policy.ttlFor a.payload⟩ := by
  rw [suits.storeKey, suits.policy]
  rfl

/-- **The books balance.** -/
theorem Step.books (step : p.Step now e fx p') (sane : p.Sane)
    (led : ∀ (id : Nat) (f : Fetch (Plan ω)), p.fetches.fetches[id]? = some f →
      ∃ w, lead id = some w ∧ w.Suits p.keys f) : p.Books now lead e fx p' := by
  cases step with
  | arrive r fx s how => exact how.books
  | force policy key origin p₁ flight fx some_key forced how =>
    refine .of_same rfl ?_ how.queued
    rw [writesOf_append, how.writesOf_eq_nil, writesOf_limitOf, List.append_nil]
  | drain => exact .of_same rfl rfl rfl
  | settle c x e fx s at_ how => exact .of_same (how.cause? at_) how.writesOf_eq_nil rfl
  | miss c policy key origin o p₁ flight fx at_ missing how =>
    refine .of_same rfl ?_ how.queued
    rw [writesOf_append, how.writesOf_eq_nil, writesOf_limitOf, List.append_nil]
  | stale c policy key origin v p₁ flight fx at_ live old how =>
    refine .of_same rfl ?_ ?_
    · rw [writesOf_append, how.writesOf_eq_nil]
      rfl
    · rw [← how.queued]
      show Pool.backlog (p₁.pool.spawn _).1 ++ p₁.saves.filterMap Save.write? = p₁.queued
      rw [Pool.backlog_spawn, Work.write?, Option.toList_none, List.append_nil, queued]
  | again c policy key origin flight a e at_ looks known forced joined =>
    have cause : p.again? now c =
        some ⟨.joined flight.fetch, policy, key, a.payload, a.volatile, now⟩ := by
      simp [again?, at_, known, forced, joined]
    refine .of_queued (c := ⟨.joined flight.fetch, policy, key, a.payload, a.volatile, now⟩)
      (by rcases looks with rfl | rfl <;> exact cause) rfl ?_
    show (p.pool.backlog ++ List.filterMap Save.write? (p.saves ++ [_])).Perm _
    rw [List.filterMap_append, ← List.append_assoc]
    exact List.perm_append_comm
  | drained c q w at_ woken idle =>
    exact .of_same (by simp [Proxy.cause?, again?, at_]) rfl rfl
  | parks c q w at_ woken busy => exact .of_same (by simp [Proxy.cause?, again?, at_]) rfl rfl
  | leaveDrain => exact .of_same rfl rfl rfl
  | ask => exact .of_same rfl rfl rfl
  | store id f a policy storeKey at_ stage plan =>
    obtain ⟨w, hw, suits⟩ := led id f at_
    refine .of_begun (by rw [Proxy.cause?, hw, Option.map_some]) ?_ rfl
    rw [write_of_suits suits, plan]
    rfl
  | passOn id f a policy storeKey guard pool₁ pool₂ spawned idle at_ stage plan spawn back =>
    obtain ⟨w, hw, suits⟩ := led id f at_
    refine .of_queued (by rw [Proxy.cause?, hw, Option.map_some]) ?_ ?_
    · rw [writesOf_append, writesOf_poolWakes, writesOf_fetchWakes, List.append_nil]
    · -- The write is handed over, and the guard that goes back hands on nobody's permit.
      have given := Pool.backlog_giveBack pool₁ guard
      have taken := Pool.backlog_spawn p.pool
        (.writeBack storeKey (a.stamp now) (policy.ttlFor a.payload))
      rw [back] at given
      rw [spawn] at taken
      show (pool₂.backlog ++ p.saves.filterMap Save.write?).Perm _
      rw [given, taken, write_of_suits suits, plan, List.append_assoc]
      exact List.perm_middle
  | failThrough id f r err at_ stage bad plan =>
    refine .of_same ?_ (writesOf_fetchWakes _ _) rfl
    cases r with
    | ok a => cases bad
    | failed | crashed => rfl
  | failBack id f r err guard pool₁ idle at_ stage bad plan back =>
    refine .of_same ?_ ?_ ?_
    · cases r with
      | ok a => cases bad
      | failed | crashed => rfl
    · rw [writesOf_append, writesOf_poolWakes, writesOf_fetchWakes, List.append_nil]
    · have given := Pool.backlog_giveBack p.pool guard
      rw [back] at given
      show pool₁.backlog ++ _ = p.queued
      rw [given, queued]
  | stored id f a r at_ stage => exact .of_same rfl (writesOf_fetchWakes _ _) rfl
  | queue j pool₁ resumed =>
    refine .of_same rfl rfl ?_
    rw [queued, Pool.backlog_queue resumed, queued]
  | write j pool₁ storeKey v ttl resumed at_ =>
    refine .of_none rfl ?_
    exact (Pool.backlog_resume? resumed at_).append_right _
  | await j pool₁ storeKey f resumed at_ running =>
    -- A refresh is not there to write: what it starts with is no write of its own.
    refine .of_none rfl ?_
    exact (Pool.backlog_resume? resumed at_).append_right _
  | skip j pool₁ pool₂ storeKey f r wakes resumed at_ known finished =>
    refine .of_none rfl ?_
    have ended := Pool.backlog_finish? (sane.balanced.resume? resumed) finished
    rw [writesOf_append, writesOf_endLog, writesOf_poolWakes, queued, queued, ended]
    exact (Pool.backlog_resume? resumed at_).append_right _
  | endJob j work e r pool₁ wakes at_ how finished =>
    refine .of_same (by cases how <;> rfl) ?_ ?_
    · rw [writesOf_append, writesOf_endLog, writesOf_poolWakes, List.append_nil]
    · rw [queued, Pool.backlog_finish? sane.balanced finished, queued]
  | save s x at_ stage =>
    refine .of_none rfl ?_
    have started := perm_set_save at_ (y := { x with stage := .writing }) rfl
    rw [show x.write? = some ⟨x.storeKey, x.value, x.ttl⟩ by simp [Save.write?, stage]] at started
    exact (started.append_left p.pool.backlog).trans List.perm_middle
  | saved s x r at_ stage =>
    refine .of_none rfl ?_
    rw [writesOf_eq_nil fun y hy => by obtain ⟨c, -, rfl⟩ := List.mem_map.1 hy; rfl]
    have ended := perm_set_save at_ (y := { x with stage := .ended (r.caught saveCrash) }) rfl
    rw [show x.write? = none by simp [Save.write?, stage]] at ended
    exact ended.append_left p.pool.backlog

end Books

end Proxy

end ReadThrough
