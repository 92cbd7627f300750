import ReadThrough.Proofs.Proxy.Orders

/-!
# What a drain leaves behind

A drain returns when nothing is pending. What is pending are the jobs of the pool and the guards
of fetches, so at that moment every write-back and every refresh is over, and so is every fetch
that a miss or a stale hit has started, whether or not anybody still waits for it.

Forced lookups do their writing without the pool: their fetches have no guard, and neither have
the saves of those that joined. A drain does not see this work. While its callers wait that is
their own affair; a forced lookup that has been abandoned leaves a fetch, and a write after it,
of which a drain knows nothing (`abandoned_refresh_undrained`). `drain_leaves_forced` says that
this is all a drain leaves behind.
-/

set_option autoImplicit false

namespace ReadThrough

namespace Proxy

variable {ω : Type} {now : Moment} {p p' : Proxy ω}

/-- The fetch is under way, and no caller waits for it. -/
def Unattended (p : Proxy ω) (id : Nat) : Prop :=
  (∃ f, p.fetches.fetches[id]? = some f ∧ f.stage.isAlive = true) ∧
    ∀ c flight, p.stage? c = some (.waiting flight) → flight.fetch ≠ id

/-- A write on behalf of a lookup has not been made: it is with the pool, or with a save, or it is
being made before a fetch ends, or it hangs on a fetch that no caller waits for. -/
inductive Owes (p : Proxy ω) : Prop
  | job (j : Nat) (storeKey : String) (v : Value) (ttl : Duration) (s : Job.Stage)
      (at_ : p.pool.jobs[j]? = some ⟨.writeBack storeKey v ttl, s⟩) (unfinished : s ≠ .ended)
  | save (i : Nat) (x : Save) (at_ : p.saves[i]? = some x) (unfinished : ∀ r, x.stage ≠ .ended r)
  | storing (id : Nat) (f : Fetch (Plan ω)) (a : Fetched) (at_ : p.fetches.fetches[id]? = some f)
      (stage : f.stage = .storing a)
  | unattended (id : Nat) (h : p.Unattended id)

/-- Nothing goes on that nobody waits for, and no lookup is owed a write. -/
def Drained (p : Proxy ω) : Prop := (∀ id, ¬p.Unattended id) ∧ ¬p.Owes

/-! ## Whoever drains does nothing else -/

def Patient (p : Proxy ω) : Prop :=
  ∀ (c : Nat) (x : Caller ω), p.callers[c]? = some x → x.request = .drain →
    x.stage.isSettled = true ∨ ∃ w, x.stage = .draining w

theorem Settles.not_patient {c : Nat} {x : Caller ω} {e : Event ω} {fx : List (Effect ω)}
    {s : Caller.Stage} (how : p.Settles now c x e fx s) (drains : x.request = .drain)
    (patient : x.stage.isSettled = true ∨ ∃ w, x.stage = .draining w) : False := by
  cases how with
  | left x waits elsewhere =>
    rcases patient with settled | ⟨w, draining⟩
    · rw [waits] at settled
      cases settled
    · exact elsewhere w draining
  | unread | hit | told | gaveUp => cases drains
  | crashed | saved | written | deleted =>
    rcases patient with settled | ⟨w, draining⟩
    · cases settled
    · cases draining

theorem Patient.addCaller (h : p.Patient) {r : Request ω} {s : Caller.Stage}
    (new : r = .drain → s.isSettled = true ∨ ∃ w, s = .draining w) : (p.addCaller r s).Patient := by
  intro c x at_ drains
  rw [getElem?_addCaller] at at_
  split at at_
  case isTrue =>
    cases at_
    exact new drains
  case isFalse => exact h c x at_ drains

theorem Patient.setStage (h : p.Patient) {c : Nat} {x : Caller ω} {s : Caller.Stage}
    (at_ : p.callers[c]? = some x)
    (next : x.request = .drain → s.isSettled = true ∨ ∃ w, s = .draining w) :
    (p.setStage c s).Patient := by
  intro d y hy drains
  rcases getElem?_setStage_cases hy with ⟨rfl, z, hz, rfl⟩ | ⟨-, same⟩
  · rw [at_] at hz
    cases hz
    exact next drains
  · exact h d y same drains

theorem Patient.congr (h : p.Patient) (same : p'.callers = p.callers) : p'.Patient := by
  intro c x at_
  rw [same] at at_
  exact h c x at_

theorem Patient.step {e : Event ω} {fx : List (Effect ω)} (h : p.Patient)
    (step : p.Step now e fx p') : p'.Patient := by
  cases step with
  | arrive r fx s how =>
    refine h.addCaller fun drains => ?_
    cases how with
    | vacuous => exact Or.inl rfl
    | read | set | remove => cases drains
  | force policy key origin p₁ flight fx some_key forced how =>
    exact (h.congr how.callers).addCaller fun drains => by cases drains
  | drain =>
    refine Patient.addCaller (h.congr rfl) fun _ => ?_
    split
    · exact Or.inl rfl
    · exact Or.inr ⟨_, rfl⟩
  | settle c x e fx s at_ how =>
    exact h.setStage at_ fun drains => (how.not_patient drains (h c x at_ drains)).elim
  | miss c policy key origin o p₁ flight fx at_ missing how =>
    exact (h.congr how.callers).setStage (by rw [how.callers]; exact at_)
      fun drains => by cases drains
  | stale c policy key origin v p₁ flight fx at_ live old how =>
    have here : p₁.callers[c]? = some ⟨.lookup policy key origin, .reading⟩ := by
      rw [how.callers]
      exact at_
    exact Patient.setStage (p := { p₁ with pool := _ }) (h.congr how.callers) here
      fun drains => by cases drains
  | again c policy key origin flight a e at_ looks known forced joined =>
    exact Patient.setStage (p := { p with saves := _ }) (h.congr rfl) at_
      fun drains => by cases drains
  | drained c q w at_ woken idle =>
    exact Patient.setStage (p := { p with pool := _ }) (h.congr rfl) at_ fun _ => Or.inl rfl
  | leaveDrain c q w at_ =>
    exact Patient.setStage (p := { p with pool := _ }) (h.congr rfl) at_ fun _ => Or.inl rfl
  | parks | ask | store | passOn | failThrough | failBack | stored | queue | write | await | skip
  | endJob | save | saved => exact h.congr rfl

/-- A drain comes to its end only while nothing is pending. -/
theorem Step.pending_of_drained {e : Event ω} {fx : List (Effect ω)} (patient : p.Patient)
    (step : p.Step now e fx p') {c : Nat} {x : Caller ω} {r : Outcome Answer}
    (at_ : p'.callers[c]? = some x) (drains : x.request = .drain) (returned : x.stage = .answered r)
    (before : p.result? c = none) : p'.pending = 0 := by
  have fresh : p.callers[c]? ≠ some x := by
    intro same
    simp [result?, stage?, same, returned] at before
  cases step with
  | arrive r fx s how =>
    rw [getElem?_addCaller] at at_
    split at at_
    case isTrue =>
      cases at_
      cases how with
      | vacuous r a blank =>
        cases drains
        cases blank
      | read | set | remove => cases drains
    case isFalse => exact absurd at_ fresh
  | force policy key origin p₁ flight fx some_key forced how =>
    rw [getElem?_addCaller, how.callers] at at_
    split at at_
    case isTrue =>
      cases at_
      cases drains
    case isFalse => exact absurd at_ fresh
  | drain =>
    rw [getElem?_addCaller] at at_
    split at at_
    case isTrue =>
      cases at_
      by_cases zero : p.pool.pending = 0
      · exact zero
      · rw [if_neg zero] at returned
        cases returned
    case isFalse => exact absurd at_ fresh
  | settle d y e fx s here how =>
    rcases getElem?_setStage_cases at_ with ⟨rfl, z, hz, rfl⟩ | ⟨-, same⟩
    · rw [here] at hz
      cases hz
      exact (how.not_patient drains (patient d y here drains)).elim
    · exact absurd same fresh
  | miss d policy key origin o p₁ flight fx here missing how =>
    rcases getElem?_setStage_cases at_ with ⟨rfl, z, -, rfl⟩ | ⟨-, same⟩
    · cases returned
    · rw [how.callers] at same
      exact absurd same fresh
  | stale d policy key origin v p₁ flight fx here live old how =>
    rcases getElem?_setStage_cases at_ with ⟨rfl, z, hz, rfl⟩ | ⟨-, same⟩
    · change p₁.callers[d]? = some z at hz
      rw [how.callers, here] at hz
      cases hz
      cases drains
    · change p₁.callers[c]? = some x at same
      rw [how.callers] at same
      exact absurd same fresh
  | again d policy key origin flight a e here looks known forced joined =>
    rcases getElem?_setStage_cases at_ with ⟨rfl, z, -, rfl⟩ | ⟨-, same⟩
    · cases returned
    · exact absurd same fresh
  | drained d q w here woken idle => exact idle
  | leaveDrain d q w here =>
    rcases getElem?_setStage_cases at_ with ⟨rfl, z, -, rfl⟩ | ⟨-, same⟩
    · cases returned
    · exact absurd same fresh
  | parks | ask | store | passOn | failThrough | failBack | stored | queue | write | await | skip
  | endJob | save | saved => exact absurd at_ fresh

/-! ## What is pending, and what is not -/

theorem Sane.ended_of_idle (h : p.Sane) (idle : p.pending = 0) {j : Nat} {x : Job Work}
    (at_ : p.pool.jobs[j]? = some x) : x.stage = .ended := by
  have sum := h.balanced.tally.sum
  rw [show p.pool.pending = 0 from idle] at sum
  have none_left : p.pool.unfinished = 0 := by omega
  have ended := List.countP_eq_zero.1 none_left x (List.mem_of_getElem? at_)
  cases stage : x.stage with
  | ended => rfl
  | spawned | queued | granted | running =>
    rw [stage] at ended
    exact absurd rfl ended

/-- Nothing pending, no guard out: whatever fetch is under way has none. -/
theorem Sane.unguarded_of_idle (h : p.Sane) (idle : p.pending = 0) {id : Nat}
    {f : Fetch (Plan ω)} (at_ : p.fetches.fetches[id]? = some f) (alive : f.stage.isAlive = true) :
    f.plan.after.guard? = none := by
  have sum := h.balanced.tally.sum
  rw [show p.pool.pending = 0 from idle] at sum
  have none_out : p.pool.guards = [] := List.length_eq_zero_iff.1 (by omega)
  have books := h.guards
  rw [none_out] at books
  have none_kept : f.guard? = none :=
    List.filterMap_eq_nil_iff.1 books.nil_eq.symm f (List.mem_of_getElem? at_)
  rw [Fetch.guard?, if_pos alive] at none_kept
  exact none_kept

theorem Boards.guard?_isSome {policy : Policy} {key : String} {origin : ω} {guarded : Bool}
    {p₁ : Proxy ω} {flight : Flight} {fx : List (Effect ω)}
    (b : p.Boards policy key origin guarded p₁ flight fx) {i : Nat} {f : Fetch (Plan ω)}
    (at_ : p₁.fetches.fetches[i]? = some f) (new : p.fetches.fetches.length ≤ i) :
    f.plan.after.guard?.isSome = guarded := by
  have none_there : p.fetches.fetches[i]? = none := List.getElem?_eq_none new
  cases b with
  | leadThrough free | leadBack free =>
    rw [Coalescer.getElem?_start] at at_
    split at at_
    case isTrue =>
      cases at_
      rfl
    case isFalse =>
      rw [none_there] at at_
      cases at_
  | joinThrough | joinBack =>
    rw [none_there] at at_
    cases at_

/-- A new fetch is guarded unless a forced lookup has started it. -/
theorem Step.started {e : Event ω} {fx : List (Effect ω)} (step : p.Step now e fx p')
    {i : Nat} {f : Fetch (Plan ω)} (at_ : p'.fetches.fetches[i]? = some f)
    (new : p.fetches.fetches.length ≤ i) :
    ∃ w, p.wish? now e = some w ∧ (f.plan.after.guard? = none ↔ w.role = .forced) := by
  have there := (List.getElem?_eq_some_iff.1 at_).1
  cases step with
  | force policy key origin p₁ flight fx some_key forced how =>
    have guarded := how.guard?_isSome at_ new
    refine ⟨⟨.forced, policy, key, origin⟩, by simp [wish?, forced, some_key], ?_⟩
    simpa using guarded
  | miss c policy key origin o p₁ flight fx here missing how =>
    have guarded := how.guard?_isSome at_ new
    refine ⟨⟨.missed, policy, key, origin⟩, ?_, ?_⟩
    · cases o with
      | none => simp [wish?, here]
      | some v => simp [wish?, here, missing v rfl]
    · rw [← Option.not_isSome_iff_eq_none, guarded]
      simp
  | stale c policy key origin v p₁ flight fx here live old how =>
    have guarded := how.guard?_isSome at_ new
    simp only [Bool.and_eq_true] at old
    refine ⟨⟨.stale, policy, key, origin⟩, by simp [wish?, here, live, old], ?_⟩
    rw [← Option.not_isSome_iff_eq_none, guarded]
    simp
  | arrive | drain | settle | again | drained | parks | leaveDrain | ask | store | passOn
  | failThrough | failBack | stored | queue | write | await | skip | endJob | save | saved =>
    -- Nothing else starts a fetch.
    simp [Coalescer.finish, addCaller, setStage] at there
    omega

/-! ## Requests and saves -/

/-- A caller has been there before with the same request, or has just come. -/
theorem Step.request {e : Event ω} {fx : List (Effect ω)} (step : p.Step now e fx p') {c : Nat}
    {x : Caller ω} (at_ : p'.callers[c]? = some x) :
    (∃ y, p.callers[c]? = some y ∧ y.request = x.request) ∨ e = .request x.request := by
  rcases step.caller_cases at_ with same | ⟨-, came, -⟩ | ⟨y, before, same, -⟩
  · exact Or.inl ⟨x, same, rfl⟩
  · exact Or.inr came
  · exact Or.inl ⟨y, before, same⟩

/-- The first save is one of a forced lookup that joined a fetch. -/
theorem Step.saves {e : Event ω} {fx : List (Effect ω)} (step : p.Step now e fx p')
    (some_save : p'.saves ≠ []) : p.saves ≠ [] ∨ ∃ (c : Nat) (policy : Policy) (key : String)
      (origin : ω) (flight : Flight),
        p.callers[c]? = some ⟨.lookup policy key origin, .waiting flight⟩ ∧
          policy.force = true ∧ flight.leader = false := by
  cases step with
  | again c policy key origin flight a e at_ looks known forced joined =>
    exact Or.inr ⟨c, policy, key, origin, flight, at_, forced, joined⟩
  | force policy key origin p₁ flight fx some_key forced how =>
    exact Or.inl (how.saves ▸ some_save)
  | miss c policy key origin o p₁ flight fx at_ missing how => exact Or.inl (how.saves ▸ some_save)
  | stale c policy key origin v p₁ flight fx at_ live old how =>
    exact Or.inl (how.saves ▸ some_save)
  | save s x at_ stage | saved s x r at_ stage =>
    refine Or.inl fun none_there => ?_
    rw [none_there] at at_
    cases at_
  | arrive | drain | settle | drained | parks | leaveDrain | ask | store | passOn | failThrough
  | failBack | stored | queue | write | await | skip | endJob => exact Or.inl some_save

end Proxy

/-! ## Forced lookups -/

/-- A lookup comes that does not look into the store. -/
def Event.forces {ω : Type} : Event ω → Bool
  | .request (.lookup policy _ _) => policy.force
  | _ => false

/-- There has been a forced lookup. -/
def Forced {ω : Type} (past : List (Turn ω)) : Prop := ∃ t ∈ past, t.event.forces = true

theorem Forced.cons {ω : Type} {past : List (Turn ω)} (h : Forced past) (t : Turn ω) :
    Forced (t :: past) :=
  h.imp fun _ h => ⟨List.mem_cons_of_mem _ h.1, h.2⟩

theorem Proxy.forces_of_wish? {ω : Type} {p : Proxy ω} {now : Moment} {e : Event ω} {w : Wish ω}
    (wished : p.wish? now e = some w) (forced : w.role = .forced) : e.forces = true := by
  rcases Proxy.wish?_cases wished with ⟨-, rfl, force, -⟩ | ⟨c, o, -, -, role⟩
  · exact force
  · -- A lookup that has read the store wants a fetch because of a miss, or of a stale entry.
    rcases role with ⟨missed, -⟩ | ⟨stale, -⟩
    · rw [forced] at missed
      cases missed
    · rw [forced] at stale
      cases stale

theorem forced_of_leader? {ω : Type} {past : List (Turn ω)} {id : Nat} {w : Wish ω}
    (led : leader? past id = some w) (forced : w.role = .forced) : Forced past := by
  induction past with
  | nil => cases led
  | cons t past ih =>
    rw [leader?] at led
    split at led
    · exact ⟨t, List.mem_cons_self, Proxy.forces_of_wish? led forced⟩
    · exact (ih led).cons t

namespace Scene

variable {ω : Type} {s : Scene ω}

/-- Whether a fetch is guarded can be told from who has started it. -/
def Marked (s : Scene ω) : Prop :=
  ∀ (id : Nat) (f : Fetch (Plan ω)), s.proxy.fetches.fetches[id]? = some f →
    ∃ w, leader? s.past id = some w ∧ (f.plan.after.guard? = none ↔ w.role = .forced)

theorem Marked.act (h : s.Marked) (now : Moment) (e : Event ω) : (s.act now e).Marked := by
  rcases s.act_cases now e with ⟨-, same⟩ | ⟨p, fx, -, taken, acted⟩
  · rw [same]
    exact h
  · rw [acted]
    intro id g hg
    have old : ∀ f, s.proxy.fetches.fetches[id]? = some f → g.plan = f.plan →
        ∃ w, leader? (⟨now, e, s.proxy, fx, p⟩ :: s.past) id = some w ∧
          (g.plan.after.guard? = none ↔ w.role = .forced) := by
      intro f hf plan
      obtain ⟨w, led, role⟩ := h id f hf
      refine ⟨w, ?_, plan ▸ role⟩
      rw [leader?_cons (List.getElem?_eq_some_iff.1 hf).1]
      exact led
    cases taken.proceeds hg with
    | started g w wished new last suits queued =>
      obtain ⟨w', wished', role⟩ := taken.started hg (Nat.le_of_eq new.symm)
      refine ⟨w', ?_, role⟩
      have starts : Turn.starts ⟨now, e, s.proxy, fx, p⟩ id = true := by
        simp [Turn.starts, new ▸ last, new]
      rw [leader?, if_pos starts]
      exact wished'
    | stays f at_ => exact old _ at_ rfl
    | asked f at_ told => exact old _ at_ rfl
    | answered f a st at_ asking event stage => exact old _ at_ rfl
    | failed f err at_ asking => exact old _ at_ rfl
    | stored f a r at_ storing => exact old _ at_ rfl

theorem marked_run (keys : KeyScheme) (maxTasks : Nat) (es : List (Moment × Event ω)) :
    ((start keys maxTasks).run es).Marked := by
  refine run_induction (P := Marked) (fun _ now e h => h.act now e) ?_ es
  intro id f hf
  simp [start, Proxy.ofPool, Coalescer.empty] at hf

/-- Forced callers, and saves, are there only if there has been a forced lookup. -/
structure Noted (s : Scene ω) : Prop where
  callers : ∀ (c : Nat) (policy : Policy) (key : String) (origin : ω) (stage : Caller.Stage),
    s.proxy.callers[c]? = some ⟨.lookup policy key origin, stage⟩ → policy.force = true →
      Forced s.past
  saves : s.proxy.saves ≠ [] → Forced s.past

theorem Noted.act (h : s.Noted) (now : Moment) (e : Event ω) : (s.act now e).Noted := by
  rcases s.act_cases now e with ⟨-, same⟩ | ⟨p, fx, -, taken, acted⟩
  · rw [same]
    exact ⟨h.callers, h.saves⟩
  · rw [acted]
    constructor
    · intro c policy key origin stage at_ forced
      rcases taken.request at_ with ⟨⟨request, st⟩, before, rfl⟩ | rfl
      · exact (h.callers c policy key origin st before forced).cons _
      · exact ⟨_, List.mem_cons_self, forced⟩
    · intro some_save
      rcases taken.saves some_save with before | ⟨c, policy, key, origin, flight, at_, forced, -⟩
      · exact (h.saves before).cons _
      · exact (h.callers c policy key origin (.waiting flight) at_ forced).cons _

theorem noted_run (keys : KeyScheme) (maxTasks : Nat) (es : List (Moment × Event ω)) :
    ((start keys maxTasks).run es).Noted := by
  refine run_induction (P := Noted) (fun _ now e h => h.act now e) ⟨?_, fun some_save => ?_⟩ es
  · intro c policy key origin stage at_
    simp [start, Proxy.ofPool] at at_
  · simp [start, Proxy.ofPool] at some_save

theorem patient_run (keys : KeyScheme) (maxTasks : Nat) (es : List (Moment × Event ω)) :
    ((start keys maxTasks).run es).proxy.Patient := by
  refine proxy_induction (P := Proxy.Patient) (fun _ _ _ _ _ h step => h.step step) ?_ es
  intro c x at_
  simp [start, Proxy.ofPool] at at_

/-! ## The moment a drain returns -/

/-- The caller drains, and by this act it comes to its end. -/
def Returns (s : Scene ω) (now : Moment) (e : Event ω) (c : Nat) : Prop :=
  s.proxy.result? c = none ∧
    ∃ x, (s.act now e).proxy.callers[c]? = some x ∧ x.request = .drain ∧
      x.stage = .answered (.ok .done)

theorem Returns.pending {now : Moment} {e : Event ω} {c : Nat} (h : s.Returns now e c)
    (patient : s.proxy.Patient) : (s.act now e).proxy.pending = 0 := by
  obtain ⟨before, x, at_, drains, returned⟩ := h
  rcases s.act_cases now e with ⟨-, same⟩ | ⟨p, fx, -, taken, acted⟩
  · rw [same] at at_
    simp [Proxy.result?, Proxy.stage?, at_, returned] at before
  · rw [acted] at at_ ⊢
    exact taken.pending_of_drained patient at_ drains returned before

/-- **What a drain leaves behind is work of forced lookups.** At the moment a drain returns, every
job of the pool is over, and every fetch that is under way was started by a forced lookup. So
everything is drained exactly if each such fetch still has a caller who waits for it and is not
yet being written, and every save is over; and if there has been no forced lookup, everything is
drained. -/
theorem drain_leaves_forced (keys : KeyScheme) (maxTasks : Nat) (es : List (Moment × Event ω))
    (now : Moment) (e : Event ω) (c : Nat)
    (returns : ((start keys maxTasks).run es).Returns now e c) :
    let s := ((start keys maxTasks).run es).act now e
    (∀ (j : Nat) (x : Job Work), s.proxy.pool.jobs[j]? = some x → x.stage = .ended) ∧
    (∀ (id : Nat) (f : Fetch (Plan ω)), s.proxy.fetches.fetches[id]? = some f →
      f.stage.isAlive = true → ∃ w, leader? s.past id = some w ∧ w.role = .forced) ∧
    (s.proxy.Drained ↔
      (∀ (id : Nat) (f : Fetch (Plan ω)), s.proxy.fetches.fetches[id]? = some f →
        f.stage.isAlive = true → ¬s.proxy.Unattended id ∧ ∀ a, f.stage ≠ .storing a) ∧
      ∀ (i : Nat) (x : Save), s.proxy.saves[i]? = some x → ∃ r, x.stage = .ended r) ∧
    (¬Forced s.past → s.proxy.Drained) := by
  intro s
  have sane : s.proxy.Sane := act_sane (sane_run keys maxTasks es) now e
  have marked : s.Marked := (marked_run keys maxTasks es).act now e
  have noted : s.Noted := (noted_run keys maxTasks es).act now e
  have idle : s.proxy.pending = 0 := returns.pending (patient_run keys maxTasks es)
  have led : ∀ (id : Nat) (f : Fetch (Plan ω)), s.proxy.fetches.fetches[id]? = some f →
      f.stage.isAlive = true → ∃ w, leader? s.past id = some w ∧ w.role = .forced := by
    intro id f at_ alive
    obtain ⟨w, led, role⟩ := marked id f at_
    exact ⟨w, led, role.1 (sane.unguarded_of_idle idle at_ alive)⟩
  have balance : s.proxy.Drained ↔
      (∀ (id : Nat) (f : Fetch (Plan ω)), s.proxy.fetches.fetches[id]? = some f →
        f.stage.isAlive = true → ¬s.proxy.Unattended id ∧ ∀ a, f.stage ≠ .storing a) ∧
      ∀ (i : Nat) (x : Save), s.proxy.saves[i]? = some x → ∃ r, x.stage = .ended r := by
    constructor
    · rintro ⟨attended, owes⟩
      refine ⟨fun id f at_ _ => ⟨attended id, fun a stage => owes (.storing id f a at_ stage)⟩, ?_⟩
      intro i x at_
      refine Classical.byContradiction fun unfinished => owes (.save i x at_ fun r stage => ?_)
      exact unfinished ⟨r, stage⟩
    · rintro ⟨fetches, saves⟩
      have attended : ∀ id, ¬s.proxy.Unattended id := by
        intro id left
        obtain ⟨f, at_, alive⟩ := left.1
        exact (fetches id f at_ alive).1 left
      refine ⟨attended, fun owes => ?_⟩
      cases owes with
      | job j storeKey v ttl st at_ unfinished => exact unfinished (sane.ended_of_idle idle at_)
      | save i x at_ unfinished =>
        obtain ⟨r, stage⟩ := saves i x at_
        exact unfinished r stage
      | storing id f a at_ stage => exact (fetches id f at_ (by rw [stage]; rfl)).2 a stage
      | unattended id left => exact attended id left
  refine ⟨fun j x at_ => sane.ended_of_idle idle at_, led, balance, fun gentle => balance.2 ⟨?_, ?_⟩⟩
  · intro id f at_ alive
    obtain ⟨w, led, role⟩ := led id f at_ alive
    exact absurd (forced_of_leader? led role) gentle
  · intro i x at_
    refine absurd (noted.saves fun none_there => ?_) gentle
    rw [none_there] at at_
    cases at_

/-- A miss is abandoned, and its write-back is waited for all the same. -/
def abandonedMiss : List (Moment × Event Unit) :=
  [(.epoch, .request (.lookup .default "k" ())),
    (.epoch, .readAnswered 0 (.ok none)),
    (.epoch, .abandoned 0),
    (.epoch, .request .drain),
    (.epoch, .resume (.fetch 0)),
    (.epoch, .originAnswered 0 (.ok (.steady "v"))),
    (.epoch, .resume (.job 0)),
    (.epoch, .writeAnswered (.job 0) (.ok ()))]

theorem drain_leaves_forced_abandonedMiss :
    ((start ⟨none⟩ 1).run abandonedMiss).Returns .epoch (.resume (.caller 1)) 1 ∧
      (((start ⟨none⟩ 1).run abandonedMiss).act .epoch (.resume (.caller 1))).proxy.Drained := by
  have returns : ((start ⟨none⟩ 1).run abandonedMiss).Returns .epoch (.resume (.caller 1)) 1 :=
    ⟨rfl, _, rfl, rfl, rfl⟩
  have gentle : ¬Forced
      (((start ⟨none⟩ 1).run abandonedMiss).act .epoch (.resume (.caller 1))).past := by
    unfold Forced
    decide
  exact ⟨returns, (drain_leaves_forced ⟨none⟩ 1 abandonedMiss _ _ _ returns).2.2.2 gentle⟩

/-- A forced lookup is abandoned while its origin is asked. -/
def abandonedRefresh : List (Moment × Event Unit) :=
  [(.epoch, .request (.lookup { Policy.default with force := true } "k" ())),
    (.epoch, .resume (.fetch 0)),
    (.epoch, .abandoned 0)]

/-- A drain that comes now returns at once, while the fetch goes on and its write is to come. -/
theorem abandoned_refresh_undrained :
    ((start ⟨none⟩ 1).run abandonedRefresh).Returns .epoch (.request .drain) 1 ∧
      (((start ⟨none⟩ 1).run abandonedRefresh).act .epoch (.request .drain)).proxy.Unattended 0 ∧
      ¬(((start ⟨none⟩ 1).run abandonedRefresh).act .epoch (.request .drain)).proxy.Drained := by
  have left : (((start ⟨none⟩ 1).run abandonedRefresh).act .epoch
      (.request .drain)).proxy.Unattended 0 := by
    refine ⟨⟨_, rfl, rfl⟩, ?_⟩
    intro c flight waits
    match c with
    | 0 => cases waits
    | 1 => cases waits
    | c + 2 => cases waits
  exact ⟨⟨rfl, _, rfl, rfl, rfl⟩, left, fun drained => drained.1 0 left⟩

end Scene

end ReadThrough
