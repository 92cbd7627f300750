import ReadThrough.Proofs.Proxy.Failures
import ReadThrough.Proofs.Proxy.WrittenFirst

/-!
# A forced lookup that leaves, and its write

Whoever waits for a fetch may leave before it is over: it is abandoned, or it has waited too long,
or its limit crashes. The fetch goes on. For a forced lookup there was to be a write as well, and
whether that is still made depends on whose it is.

If the lookup leads, the write is part of the fetch, and is made whoever is left to hear of it. If
it has joined, it writes by a save of its own, which it starts when it takes its turn after the end
of the fetch. From then on the save goes on without it. But until then nobody knows of this write
but the lookup, and if it leaves there is none: `left_joiner_unwritten` is such a run.

`Fate` says of a forced lookup which of these it has come to, and `Fated.turn` carries it over one
turn. `forced_write_outlives_call` reads off it that a forced lookup which leads, and one which has
joined and has not left its fetch, is owed nothing that is not made or due.
-/

set_option autoImplicit false

namespace ReadThrough

variable {ω : Type}

/-- A write of the payload has begun for the task. -/
def Wrote (past : List (Turn ω)) (task : Task) (storeKey payload : String) (ttl : Duration) : Prop :=
  ∃ t ∈ past, ∃ v, .write task storeKey v ttl ∈ t.effects ∧ v.payload = payload ∧ v.absent = false

/-- By this turn the caller stops waiting for its fetch without having heard of the end. -/
structure Turn.Leaves (t : Turn ω) (c : Nat) (flight : Flight) : Prop where
  waits : t.before.stage? c = some (.waiting flight)
  leaves : t.event = .abandoned c ∨ (∃ text, t.event = .limitCrashed c text) ∨
    (t.event = .limitPassed c ∧ t.before.fetches.result? flight.fetch = none)

def HasLeft (past : List (Turn ω)) (c : Nat) (flight : Flight) : Prop :=
  ∃ t ∈ past, t.Leaves c flight

/-- What a save is to write. -/
structure Save.Holds (x : Save) (storeKey payload : String) (ttl : Duration) : Prop where
  under : x.storeKey = storeKey
  payload : x.value.payload = payload
  live : x.value.absent = false
  lives : x.ttl = ttl

/-! ## Leaving, and staying -/

/-- At the end of its call a caller waits for nothing. -/
theorem Caller.Stage.flight?_of_settled {s : Caller.Stage} (settled : s.isSettled = true) :
    s.flight? = none := by
  cases s <;> first | rfl | cases settled

theorem Caller.Stage.save?_of_settled {s : Caller.Stage} (settled : s.isSettled = true) :
    s.save? = none := by
  cases s <;> first | rfl | cases settled

section History

variable {past : List (Turn ω)} {t : Turn ω} {c : Nat} {flight : Flight}

theorem HasLeft.cons (h : HasLeft past c flight) (t : Turn ω) : HasLeft (t :: past) c flight :=
  exists_cons h t

theorem not_hasLeft_cons (stayed : ¬HasLeft past c flight)
    (stays : ¬t.Leaves c flight) : ¬HasLeft (t :: past) c flight := by
  rintro ⟨u, hu, leaves⟩
  rcases List.mem_cons.1 hu with rfl | old
  · exact stays leaves
  · exact stayed ⟨u, old, leaves⟩

end History

namespace Proxy

variable {now : Moment} {p p' p₀ : Proxy ω} {e : Event ω} {fx : List (Effect ω)}
  {past : List (Turn ω)} {c : Nat} {policy : Policy} {storeKey : String} {flight : Flight}
  {s s' : Caller.Stage}

/-! ## Saves -/

/-- A save keeps what it is to write. -/
theorem Step.keeps_save (step : p.Step now e fx p') {i : Nat} {x : Save}
    (at_ : p.saves[i]? = some x) {payload : String} {ttl : Duration}
    (holds : x.Holds storeKey payload ttl) :
    ∃ y, p'.saves[i]? = some y ∧ y.Holds storeKey payload ttl := by
  have there := (List.getElem?_eq_some_iff.1 at_).1
  obtain ⟨y, still⟩ : ∃ y, p'.saves[i]? = some y :=
    ⟨_, List.getElem?_eq_getElem (Nat.lt_of_lt_of_le there step.saves_length_le)⟩
  refine ⟨y, still, ?_⟩
  rcases step.save_cases still with same | ⟨new, -⟩ | ⟨z, before, how⟩
  · obtain rfl : x = y := Option.some.inj (at_.symm.trans same)
    exact holds
  · rw [at_] at new
    cases new
  · obtain rfl : x = z := Option.some.inj (at_.symm.trans before)
    obtain ⟨-, rfl⟩ | ⟨-, r, -, rfl⟩ := how
    · exact ⟨holds.under, holds.payload, holds.live, holds.lives⟩
    · exact ⟨holds.under, holds.payload, holds.live, holds.lives⟩

/-- The write of every save that has had its turn has begun. -/
def Posted (past : List (Turn ω)) (p : Proxy ω) : Prop :=
  ∀ (i : Nat) (x : Save), p.saves[i]? = some x → x.stage ≠ .queued →
    ∃ t ∈ past, .write (.save i) x.storeKey x.value x.ttl ∈ t.effects

theorem Posted.turn (h : p.Posted past) (step : p.Step now e fx p') :
    p'.Posted (⟨now, e, p, fx, p'⟩ :: past) := by
  intro i x at_ begun
  rcases step.save_cases at_ with same | ⟨-, queued⟩ | ⟨y, before, ⟨queued, rfl⟩ | ⟨writing, r, -, rfl⟩⟩
  · exact exists_cons (h i x same begun) _
  · exact absurd queued begun
  · exact exists_cons_self past (step.writes_save (x := y) before queued at_)
  · exact exists_cons (h i y before (by rw [writing]; nofun)) _

/-! ## Leaving ends a call -/

/-- Whoever leaves its fetch comes to the end of its call. -/
theorem Step.leaves (step : p.Step now e fx p') (leaves : Turn.Leaves ⟨now, e, p, fx, p'⟩ c flight) :
    ∃ s, p'.stage? c = some s ∧ s.isSettled = true := by
  obtain ⟨waits, rfl | ⟨text, rfl⟩ | ⟨rfl, running⟩⟩ := leaves
  · obtain ⟨q, here⟩ := stage?_eq_some_iff.1 waits
    cases step with
    | settle d x e fx s at_ how =>
      cases how with
      | told policy key origin flight r e looks => rcases looks with e | e <;> cases e
      | left => exact ⟨.gone, stage?_eq_some_iff.2 ⟨_, callers_setStage _ at_⟩, rfl⟩
    | again d policy key origin flight a e at_ looks => rcases looks with e | e <;> cases e
    | endJob j work e r pool₁ wakes at_ how => cases how
    | leaveDrain d q w at_ =>
      rw [here] at at_
      cases at_
  · cases step with
    | settle d x e fx s at_ how =>
      cases how with
      | told policy key origin flight r e looks => rcases looks with e | e <;> cases e
      | crashed => exact ⟨_, stage?_eq_some_iff.2 ⟨_, callers_setStage _ at_⟩, rfl⟩
    | again d policy key origin flight a e at_ looks => rcases looks with e | e <;> cases e
    | endJob j work e r pool₁ wakes at_ how => cases how
  · obtain ⟨q, err, after⟩ := step.of_limitPassed waits running
    exact ⟨_, stage?_eq_some_iff.2 ⟨_, after⟩, rfl⟩

/-- Nobody leaves before it has come. -/
theorem not_hasLeft_of_unseen (trail : Trail p₀ past p) (new : p.callers.length ≤ c) :
    ¬HasLeft past c flight := by
  rintro ⟨t, ht, leaves⟩
  obtain ⟨q, here⟩ := stage?_eq_some_iff.1 leaves.waits
  have come := (List.getElem?_eq_some_iff.1 here).1
  have gone := List.getElem?_eq_none_iff.1 (unseen trail new t ht)
  exact absurd (Nat.lt_of_lt_of_le come (trail.of_mem ht).2.callers_length_le) (Nat.not_lt.2 gone)

/-! ## What becomes of the write -/

/-- What has become of the write of a forced lookup that came to this flight, where the lookup
stands. -/
inductive Fate (past : List (Turn ω)) (p : Proxy ω) (c : Nat) (policy : Policy) (storeKey : String)
    (flight : Flight) : Caller.Stage → Prop
  /-- The fetch writes for it. -/
  | leads (s : Caller.Stage) (leader : flight.leader = true)
      (stands : s = .waiting flight ∨ s.isSettled = true) :
      Fate past p c policy storeKey flight s
  /-- It is still to hear of the end of the fetch. -/
  | waits (joined : flight.leader = false) (unsaved : save? past c = none)
      (stayed : ¬HasLeft past c flight) : Fate past p c policy storeKey flight (.waiting flight)
  /-- It has a save. -/
  | saves (s : Caller.Stage) (i : Nat) (a : Fetched) (x : Save) (joined : flight.leader = false)
      (stayed : ¬HasLeft past c flight) (own : save? past c = some i)
      (known : p.fetches.result? flight.fetch = some (.ok a)) (at_ : p.saves[i]? = some x)
      (holds : x.Holds storeKey a.payload (policy.ttlFor a.payload))
      (stands : s = .saving i a.payload ∨ s.isSettled = true) :
      Fate past p c policy storeKey flight s
  /-- The fetch has brought nothing to write. -/
  | failed (s : Caller.Stage) (err : Error) (joined : flight.leader = false)
      (known : p.fetches.result? flight.fetch = some (.error err)) (settled : s.isSettled = true) :
      Fate past p c policy storeKey flight s
  | left (s : Caller.Stage) (joined : flight.leader = false) (unsaved : save? past c = none)
      (left : HasLeft past c flight) (settled : s.isSettled = true) :
      Fate past p c policy storeKey flight s

/-- Where a forced lookup can stand. -/
theorem Fate.stands (h : p.Fate past c policy storeKey flight s) :
    s = .waiting flight ∨ (∃ i payload, s = .saving i payload) ∨ s.isSettled = true := by
  cases h with
  | leads s leader stands => exact stands.imp_right Or.inr
  | waits => exact Or.inl rfl
  | saves s i a x joined stayed own known at_ holds stands =>
    exact Or.inr (stands.imp_left fun saving => ⟨i, a.payload, saving⟩)
  | failed s err joined known settled => exact Or.inr (Or.inr settled)
  | left s joined unsaved left settled => exact Or.inr (Or.inr settled)

theorem Fate.of_waiting {other : Flight} (h : p.Fate past c policy storeKey flight (.waiting other)) :
    other = flight ∧ (flight.leader = false → save? past c = none ∧ ¬HasLeft past c flight) := by
  cases h with
  | leads s leader stands =>
    rcases stands with waiting | settled
    · exact ⟨Caller.Stage.waiting.inj waiting, fun joined => by rw [leader] at joined; cases joined⟩
    · cases settled
  | waits joined unsaved stayed => exact ⟨rfl, fun _ => ⟨unsaved, stayed⟩⟩
  | saves s i a x joined stayed own known at_ holds stands =>
    rcases stands with saving | settled
    · cases saving
    · cases settled
  | failed s err joined known settled => cases settled
  | left s joined unsaved left settled => cases settled

/-- A lookup that stays where it is, or comes to the end of its call without having waited for
somebody else's fetch, keeps its fate. -/
theorem Fate.turn (h : p.Fate past c policy storeKey flight s) (step : p.Step now e fx p')
    (stood : p.stage? c = some s) (stands : p'.stage? c = some s')
    (next : s' = s ∨ s'.isSettled = true ∧ (flight.leader = true ∨ s ≠ .waiting flight)) :
    p'.Fate (⟨now, e, p, fx, p'⟩ :: past) c policy storeKey flight s' := by
  have unmoved : ∀ {i}, s'.isSettled = true → save? past c = i →
      save? (⟨now, e, p, fx, p'⟩ :: past) c = i := fun settled own =>
    (lately?_cons stands (Caller.Stage.save?_of_settled settled)).trans own
  have settles : s.isSettled = true → s'.isSettled = true := by
    intro settled
    rcases next with rfl | ⟨settled, -⟩
    · exact settled
    · exact settled
  cases h with
  | leads s leader here =>
    refine .leads s' leader ?_
    rcases next with rfl | ⟨settled, -⟩
    · exact here
    · exact Or.inr settled
  | waits joined unsaved stayed =>
    rcases next with rfl | ⟨-, leader | elsewhere⟩
    · refine .waits joined ((lately?_cons stands rfl).trans unsaved) ?_
      refine not_hasLeft_cons stayed fun leaves => ?_
      obtain ⟨s, gone, settled⟩ := step.leaves leaves
      rw [stands] at gone
      cases gone
      cases settled
    · rw [joined] at leader
      cases leader
    · exact absurd rfl elsewhere
  | saves s i a x joined stayed own known at_ holds here =>
    obtain ⟨y, still, holds⟩ := step.keeps_save at_ holds
    have stays : ¬HasLeft (⟨now, e, p, fx, p'⟩ :: past) c flight := by
      refine not_hasLeft_cons stayed fun leaves => ?_
      have waiting := leaves.waits
      rw [stood] at waiting
      cases waiting
      rcases here with saving | settled
      · cases saving
      · cases settled
    have kept : s' = .saving i a.payload ∨ s'.isSettled = true := by
      rcases next with rfl | ⟨settled, -⟩
      · exact here
      · exact Or.inr settled
    refine .saves s' i a y joined stays ?_ (step.result? known) still holds kept
    rcases kept with rfl | settled
    · exact lately?_cons_of_some stands rfl
    · exact unmoved settled own
  | failed s err joined known settled =>
    exact .failed s' err joined (step.result? known) (settles settled)
  | left s joined unsaved left settled =>
    exact .left s' joined (unmoved (settles settled) unsaved) (left.cons _) (settles settled)

/-- A lookup comes to the end of its wait. -/
theorem Settles.fate {key : String} {origin : ω}
    (how : p.Settles now c ⟨.lookup policy key origin, s⟩ e fx s')
    (h : p.Fate past c policy storeKey flight s) (forced : policy.force = true)
    (at_ : p.callers[c]? = some ⟨.lookup policy key origin, s⟩)
    (step : p.Step now e fx (p.setStage c s')) :
    (p.setStage c s').Fate (⟨now, e, p, fx, p.setStage c s'⟩ :: past) c policy storeKey flight s' := by
  have stood : p.stage? c = some s := stage?_eq_some_iff.2 ⟨_, at_⟩
  have stands : (p.setStage c s').stage? c = some s' :=
    stage?_eq_some_iff.2 ⟨_, callers_setStage _ at_⟩
  -- Only a lookup that waits for somebody else's fetch has a new fate to come to.
  by_cases own : flight.leader = true ∨ s ≠ .waiting flight
  case pos => exact h.turn step stood stands (Or.inr ⟨how.settled, own⟩)
  case neg =>
    obtain ⟨joined, rfl⟩ : flight.leader = false ∧ s = .waiting flight := by
      simpa using own
    obtain ⟨unsaved, stayed⟩ := h.of_waiting.2 joined
    have still : save? (⟨now, e, p, fx, p.setStage c s'⟩ :: past) c = none :=
      (lately?_cons stands (Caller.Stage.save?_of_settled how.settled)).trans unsaved
    have leaves : (e = .abandoned c ∨ (∃ text, e = .limitCrashed c text) ∨
        (e = .limitPassed c ∧ p.fetches.result? flight.fetch = none)) →
        (p.setStage c s').Fate (⟨now, e, p, fx, p.setStage c s'⟩ :: past) c policy storeKey
          flight s' :=
      fun leaves => .left s' joined still (exists_cons_self past ⟨stood, leaves⟩) how.settled
    cases how with
    | told policy key origin flight r e looks known plain =>
      cases r with
      | error err => exact .failed _ err joined known rfl
      | ok a =>
        have mine := plain a rfl
        rw [forced, joined] at mine
        cases mine
    | gaveUp policy key origin flight limit set running =>
      exact leaves (Or.inr (Or.inr ⟨rfl, running⟩))
    | crashed r flight text => exact leaves (Or.inr (Or.inl ⟨text, rfl⟩))
    | left => exact leaves (Or.inl rfl)

/-- Every forced lookup that has a key has come to a flight, and its write to a fate. -/
def Fated (past : List (Turn ω)) (p : Proxy ω) : Prop :=
  ∀ (c : Nat) (policy : Policy) (key : String) (origin : ω) (s : Caller.Stage),
    p.callers[c]? = some ⟨.lookup policy key origin, s⟩ → policy.force = true → key ≠ "" →
      ∃ flight, Aboard past c policy key origin flight ∧
        p.Fate past c policy (p.keys.build key) flight s

theorem Fated.turn (trail : Trail p₀ past p) (h : p.Fated past) (step : p.Step now e fx p') :
    p'.Fated (⟨now, e, p, fx, p'⟩ :: past) := by
  intro c policy key origin s at_ forced some_key
  rw [step.keys]
  have stands : p'.stage? c = some s := stage?_eq_some_iff.2 ⟨_, at_⟩
  by_cases moved : p'.callers[c]? = p.callers[c]?
  case pos =>
    obtain ⟨flight, aboard, fate⟩ := h c policy key origin s (moved ▸ at_) forced some_key
    have stood : p.stage? c = some s := stage?_eq_some_iff.2 ⟨_, moved ▸ at_⟩
    refine ⟨flight, aboard.cons stands ?_, fate.turn step stood stands (Or.inl rfl)⟩
    rcases fate.stands with rfl | ⟨i, payload, rfl⟩ | settled
    · exact Or.inr rfl
    · exact Or.inl rfl
    · exact Or.inl (Caller.Stage.flight?_of_settled settled)
  have within := step.within at_ moved
  cases step with
  | arrive r fx s' how =>
    obtain ⟨-, e⟩ := newcomer_of_addCaller at_ moved
    cases e
    cases how with
    | vacuous r a blank => exact absurd (Option.some.inj blank) some_key
    | read policy key origin some_key gentle =>
      rw [forced] at gentle
      cases gentle
  | force policy key origin p₁ flight fx some_key forced how =>
    have callers := how.callers
    obtain ⟨new, e⟩ := newcomer_of_addCaller at_ (by rw [callers]; exact moved)
    cases e
    refine ⟨flight, ⟨lately?_cons_of_some stands rfl, exists_cons_self past
      ⟨within, stands, how.taken, how.starts _ rfl, Or.inl ⟨forced, rfl⟩⟩⟩, ?_⟩
    have unborn : p.callers.length ≤ c := Nat.le_of_eq (by rw [new, callers])
    cases leader : flight.leader with
    | true => exact .leads _ leader (Or.inl rfl)
    | false =>
      refine .waits leader
        ((lately?_cons stands rfl).trans (lately?_of_unseen (unseen trail unborn))) ?_
      refine not_hasLeft_cons (not_hasLeft_of_unseen trail unborn) fun leaves => ?_
      obtain ⟨q, here⟩ := stage?_eq_some_iff.1 leaves.waits
      exact absurd (List.getElem?_eq_some_iff.1 here).1 (Nat.not_lt.2 unborn)
  | drain =>
    obtain ⟨-, e⟩ := newcomer_of_addCaller (p := { p with pool := _ }) at_ moved
    cases e
  | settle d x e fx s' here how =>
    obtain ⟨rfl, ⟨q, waited⟩, before, e⟩ := mover_of_setStage at_ moved
    rw [before] at here
    cases here
    cases e
    obtain ⟨flight, aboard, fate⟩ := h _ _ _ _ _ before forced some_key
    exact ⟨flight, aboard.cons stands (Or.inl (Caller.Stage.flight?_of_settled how.settled)),
      how.fate fate forced before (.settle _ _ _ _ _ before how)⟩
  | miss d policy key origin o p₁ flight fx here missing how =>
    have callers := how.callers
    obtain ⟨rfl, y, before, e⟩ := mover_of_setStage at_ (by rw [callers]; exact moved)
    rw [callers, here] at before
    cases before
    cases e
    obtain ⟨flight, -, fate⟩ := h _ _ _ _ _ here forced some_key
    obtain waiting | ⟨i, payload, saving⟩ | settled := fate.stands <;> contradiction
  | stale d policy key origin v p₁ flight fx here live old how =>
    have callers := how.callers
    obtain ⟨rfl, y, before, e⟩ :=
      mover_of_setStage (p := { p₁ with pool := _ }) at_ (by rw [← callers] at moved; exact moved)
    change p₁.callers[_]? = some y at before
    rw [callers, here] at before
    cases before
    cases e
    obtain ⟨flight, -, fate⟩ := h _ _ _ _ _ here forced some_key
    obtain waiting | ⟨i, payload, saving⟩ | settled := fate.stands <;> contradiction
  | again d policy key origin flight a e here looks known forced joined =>
    obtain ⟨rfl, y, before, e⟩ := mover_of_setStage (p := { p with saves := _ }) at_ moved
    change p.callers[_]? = some y at before
    rw [here] at before
    cases before
    cases e
    obtain ⟨flight', aboard, fate⟩ := h _ _ _ _ _ here forced some_key
    obtain ⟨rfl, own⟩ := fate.of_waiting
    obtain ⟨unsaved, stayed⟩ := own joined
    refine ⟨flight, aboard.cons stands (Or.inl rfl), ?_⟩
    refine .saves _ p.saves.length a
      ⟨p.keys.build key, a.stamp now, policy.ttlFor a.payload, .queued⟩ joined ?_
      (lately?_cons_of_some stands rfl) known
      ((getElem?_append_singleton ..).trans (if_pos rfl)) ⟨rfl, rfl, rfl, rfl⟩ (Or.inl rfl)
    refine not_hasLeft_cons stayed fun leaves => ?_
    -- It has heard of the end by this turn.
    obtain ⟨-, e | ⟨text, e⟩ | ⟨e, running⟩⟩ := leaves
    · rcases looks with rfl | rfl <;> cases e
    · rcases looks with rfl | rfl <;> cases e
    · cases known.symm.trans running
  | drained d q w here | leaveDrain d q w here =>
    -- A lookup does not wait with the pool.
    obtain ⟨rfl, y, before, e⟩ := mover_of_setStage (p := { p with pool := _ }) at_ moved
    change p.callers[_]? = some y at before
    rw [here] at before
    cases before
    cases e
    obtain ⟨flight, -, fate⟩ := h _ _ _ _ _ here forced some_key
    obtain waiting | ⟨i, payload, saving⟩ | settled := fate.stands <;> contradiction
  | parks | ask | store | passOn | failThrough | failBack | stored | queue | write | await | skip
  | endJob | save | saved => exact absurd rfl moved

end Proxy

/-! ## The write of a lookup that leads -/

/-- A forced lookup that comes and starts a fetch gives it its own plan. -/
theorem Proxy.Step.plan_of_starts {now : Moment} {p p' : Proxy ω} {fx : List (Effect ω)}
    {policy : Policy} {key : String} {origin : ω} {id : Nat}
    (step : p.Step now (.request (.lookup policy key origin)) fx p')
    (starts : Turn.starts ⟨now, .request (.lookup policy key origin), p, fx, p'⟩ id = true) :
    ∃ f, p'.fetches.fetches[id]? = some f ∧
      f.plan = ⟨origin, .writeThrough policy (p.keys.build key)⟩ := by
  obtain ⟨first, more⟩ : p.fetches.fetches.length = id ∧ p'.fetches.fetches.length = id + 1 := by
    simpa [Turn.starts] using starts
  cases step with
  | arrive r fx s how => exact absurd (first.symm.trans more) (Nat.ne_of_lt (Nat.lt_succ_self id))
  | force policy key origin p₁ flight fx some_key forced how =>
    cases how with
    | leadThrough free =>
      exact ⟨_, (Coalescer.getElem?_start ..).trans (if_pos first.symm), rfl⟩
    | joinThrough taken => exact absurd (first.symm.trans more) (Nat.ne_of_lt (Nat.lt_succ_self id))
  | settle d x e fx s at_ how =>
    cases how with
    | told policy key origin flight r e looks => rcases looks with e | e <;> cases e
  | again d policy key origin flight a e at_ looks => rcases looks with e | e <;> cases e
  | endJob j work e r pool₁ wakes at_ how => cases how

section Leader

variable {past : List (Turn ω)} {p₀ p : Proxy ω} {c : Nat} {policy : Policy} {key : String}
  {origin : ω} {flight : Flight}

/-- The fetch that a forced lookup leads writes for it. -/
theorem Aboard.plan (h : Aboard past c policy key origin flight) (trail : Trail p₀ past p)
    (forced : policy.force = true) (leads : flight.leader = true) :
    ∃ f, p.fetches.fetches[flight.fetch]? = some f ∧
      f.plan.after = .writeThrough policy (p.keys.build key) := by
  obtain ⟨t, ht, boards⟩ := h.boards
  obtain ⟨-, event⟩ | ⟨gentle, -⟩ := boards.cause
  case inr =>
    rw [forced] at gentle
    cases gentle
  have step := (trail.of_mem ht).2
  rw [event] at step
  have starts := boards.leads
  rw [leads] at starts
  obtain ⟨f, here, plan⟩ := step.plan_of_starts starts.symm
  obtain ⟨g, at_, -, same⟩ :=
    trail.lasts (Proxy.lasting_fetch _ f.key f.plan) ht ⟨f, here, rfl, rfl⟩
  have keys : p.keys = t.before.keys := trail.lasts_since (Proxy.lasting_keys _) ht rfl
  exact ⟨g, at_, by rw [same, plan, keys]⟩

/-- A fetch whose write comes first begins it when the origin answers, whoever is left. -/
theorem Trail.wrote (trail : Trail p₀ past p) {id : Nat} {f : Fetch (Plan ω)} {storeKey : String}
    (at_ : p.fetches.fetches[id]? = some f) (plan : f.plan.after = .writeThrough policy storeKey)
    {a : Fetched} (answered : Answered past id a) :
    Wrote past (.fetch id) storeKey a.payload (policy.ttlFor a.payload) := by
  obtain ⟨t, ht, event⟩ := answered
  have step := (trail.of_mem ht).2
  rw [event] at step
  obtain ⟨g, here, -⟩ := step.of_originAnswered
  obtain ⟨f', still, -, same⟩ :=
    trail.lasts_since (Proxy.lasting_fetch _ g.key g.plan) ht ⟨g, here, rfl, rfl⟩
  obtain rfl : f = f' := Option.some.inj (at_.symm.trans still)
  exact ⟨t, ht, _, step.writes_through here (by rw [← same]; exact plan), rfl, rfl⟩

end Leader

namespace Scene

theorem posted_run (keys : KeyScheme) (maxTasks : Nat) (es : List (Moment × Event ω)) :
    ((start keys maxTasks).run es).proxy.Posted ((start keys maxTasks).run es).past := by
  refine turn_induction (P := fun past p => p.Posted past) ?_ ?_ es
  · intro es now e fx p taken h
    exact h.turn taken
  · intro i x at_
    cases at_

theorem fated_run (keys : KeyScheme) (maxTasks : Nat) (es : List (Moment × Event ω)) :
    ((start keys maxTasks).run es).proxy.Fated ((start keys maxTasks).run es).past := by
  refine turn_induction (P := fun past p => p.Fated past) ?_ ?_ es
  · intro es now e fx p taken h
    exact h.turn (trail_run keys maxTasks es) taken
  · intro c policy key origin s at_
    cases at_

/-- The caller has a save, and this save has begun to write the payload or is to be woken to do
so. -/
def WritesAlone (s : Scene ω) (c : Nat) (storeKey payload : String) (ttl : Duration) : Prop :=
  ∃ i, save? s.past c = some i ∧ (Wrote s.past (.save i) storeKey payload ttl ∨
    (∃ x, s.proxy.saves[i]? = some x ∧ x.stage = .queued ∧ x.Holds storeKey payload ttl) ∧
      .wake (.save i) ∈ s.due)

/-- What has become of the write of a forced lookup whose fetch has brought this answer. -/
structure Survives (s : Scene ω) (c : Nat) (policy : Policy) (storeKey : String)
    (stage : Caller.Stage) (flight : Flight) (a : Fetched) : Prop where
  /-- Whoever leads has had it written and confirmed, whether or not it has stayed. -/
  led : flight.leader = true →
    Wrote s.past (.fetch flight.fetch) storeKey a.payload (policy.ttlFor a.payload) ∧
      ∃ t ∈ s.past, t.event = .writeAnswered (.fetch flight.fetch) (.ok ())
  /-- Whoever has joined and has not left the fetch has its save, whether or not it is there to
  wait for that; or it is about to hear of the answer. -/
  joined : flight.leader = false → ¬HasLeft s.past c flight →
    s.WritesAlone c storeKey a.payload (policy.ttlFor a.payload) ∨
      (stage = .waiting flight ∧ .wake (.caller c) ∈ s.due)
  /-- Whoever has joined and has left the fetch will never write. -/
  left : flight.leader = false → HasLeft s.past c flight →
    save? s.past c = none ∧ stage.isSettled = true

/-- **A forced refresh outlives its caller, unless it has joined and leaves too early.** Whatever
goes on beside it, a forced lookup of some key comes to a flight of this key; and once that fetch
has brought an answer, the answer has been written under the lookup's own key and for as long as
its own policy says if the lookup leads, whether or not it is still there. If it has joined, the
same is written by its save or is about to be, however it ends, as long as it has not left the
fetch before it heard of the answer; and if it has, it never writes. -/
theorem forced_write_outlives_call (keys : KeyScheme) (maxTasks : Nat)
    (es : List (Moment × Event ω)) {c : Nat} {policy : Policy} {key : String} {origin : ω}
    {stage : Caller.Stage}
    (at_ : ((start keys maxTasks).run es).proxy.callers[c]? =
      some ⟨.lookup policy key origin, stage⟩)
    (forced : policy.force = true) (some_key : key ≠ "") :
    let s := (start keys maxTasks).run es
    ∃ flight, Aboard s.past c policy key origin flight ∧
      ∀ a, s.proxy.fetches.result? flight.fetch = some (.ok a) →
        s.Survives c policy (keys.build key) stage flight a := by
  intro s
  have trail := trail_run keys maxTasks es
  have covered := covered_run keys maxTasks es
  have scheme : s.proxy.keys = keys := (accounted_run keys maxTasks es).scheme
  obtain ⟨flight, aboard, fate⟩ := fated_run keys maxTasks es c policy key origin stage at_ forced
    some_key
  rw [scheme] at fate
  refine ⟨flight, aboard, fun a known => ⟨fun leads => ?_, fun joined stayed => ?_,
    fun joined left => ?_⟩⟩
  · obtain ⟨f, here, plan⟩ := aboard.plan trail forced leads
    rw [scheme] at plan
    obtain ⟨w, led, came⟩ := cameBy_run keys maxTasks es known
    obtain ⟨w', led', role⟩ := marked_run keys maxTasks es _ f here
    obtain rfl : w = w' := Option.some.inj (led.symm.trans led')
    rw [role.1 (by rw [plan]; rfl)] at came
    generalize hr : Except.ok a = r at came
    -- An answer with a value is not the end yet; the answer of the store is.
    cases came with
    | origin role o told plain =>
      cases o with
      | ok b => exact absurd rfl (plain rfl b)
      | failed | crashed => cases hr
    | write b o fetched told =>
      obtain rfl : b = a := concluded_eq_ok hr.symm
      cases o with
      | ok u => exact ⟨trail.wrote here plan fetched, told⟩
      | failed | crashed => cases hr
  · cases fate with
    | leads s leader => exact absurd (leader.symm.trans joined) nofun
    | waits =>
      refine Or.inr ⟨rfl, covered (.caller c) _ ?_⟩
      rw [Proxy.next?_caller at_, Proxy.callerNeeds?, known]
      rfl
    | saves s i b x _ _ own brought there holds =>
      obtain rfl : b = a := by
        cases brought.symm.trans known
        rfl
      refine Or.inl ⟨i, own, ?_⟩
      by_cases queued : x.stage = .queued
      case pos =>
        refine Or.inr ⟨⟨x, there, queued, holds⟩, covered (.save i) _ ?_⟩
        rw [Proxy.next?_save there, queued]
        rfl
      case neg =>
        obtain ⟨t, ht, writes⟩ := posted_run keys maxTasks es i x there queued
        rw [holds.under, holds.lives] at writes
        exact Or.inl ⟨t, ht, _, writes, holds.payload, holds.live⟩
    | failed s err _ bad => cases bad.symm.trans known
    | left s _ _ left => exact absurd left stayed
  · cases fate with
    | leads s leader => exact absurd (leader.symm.trans joined) nofun
    | waits _ _ stayed => exact absurd left stayed
    | saves s i b x _ stayed => exact absurd left stayed
    | failed s err _ bad => cases bad.symm.trans known
    | left s _ unsaved _ settled => exact ⟨unsaved, settled⟩

/-- Looks into no store, and has what it fetches kept for a minute. -/
def minutely : Policy := { Policy.default with force := true, ttl := .ofSeconds 60 }

/-- A forced lookup leads and is abandoned while the origin is asked; one that has joined it is
abandoned while its save goes on. -/
def leftRefreshes : List (Moment × Event Unit) :=
  [(.epoch, .request (.lookup { Policy.default with force := true } "k" ())),
    (.epoch, .request (.lookup minutely "k" ())),
    (.epoch, .resume (.fetch 0)),
    (.epoch, .abandoned 0),
    (.epoch, .originAnswered 0 (.ok (.steady "v"))),
    (.epoch, .writeAnswered (.fetch 0) (.ok ())),
    (.epoch, .resume (.caller 1)),
    (.epoch, .abandoned 1),
    (.epoch, .resume (.save 0))]

/-- Both have left, and both have written. -/
theorem forced_write_outlives_call_leftRefreshes :
    let s := (start ⟨none⟩ 1).run leftRefreshes
    (s.proxy.stage? 0 = some .gone ∧ Wrote s.past (.fetch 0) "k" "v" Policy.default.ttl) ∧
      s.proxy.stage? 1 = some .gone ∧ s.WritesAlone 1 "k" "v" minutely.ttl := by
  intro s
  have led : s.proxy.callers[0]? =
      some ⟨.lookup { Policy.default with force := true } "k" (), .gone⟩ := rfl
  have joined : s.proxy.callers[1]? = some ⟨.lookup minutely "k" (), .gone⟩ := rfl
  have brought : s.proxy.fetches.result? 0 = some (.ok (.steady "v")) := rfl
  obtain ⟨first, aboard, survives⟩ :=
    forced_write_outlives_call ⟨none⟩ 1 leftRefreshes led rfl (by decide)
  obtain rfl : ⟨0, true⟩ = first := Option.some.inj aboard.flight?
  obtain ⟨second, aboard', survives'⟩ :=
    forced_write_outlives_call ⟨none⟩ 1 leftRefreshes joined rfl (by decide)
  obtain rfl : ⟨0, false⟩ = second := Option.some.inj aboard'.flight?
  have stayed : ¬HasLeft s.past 1 ⟨0, false⟩ := by
    intro left
    cases ((survives' _ brought).left rfl left).1
  refine ⟨⟨rfl, ((survives _ brought).led rfl).1⟩, rfl, ?_⟩
  rcases (survives' _ brought).joined rfl stayed with writes | ⟨waits, -⟩
  · exact writes
  · cases waits

/-- A forced lookup joins the fetch of a miss and is abandoned before the origin answers. -/
def leftJoiner : List (Moment × Event Unit) :=
  [(.epoch, .request (.lookup .default "k" ())),
    (.epoch, .readAnswered 0 (.ok none)),
    (.epoch, .request (.lookup minutely "k" ())),
    (.epoch, .resume (.fetch 0)),
    (.epoch, .abandoned 1),
    (.epoch, .originAnswered 0 (.ok (.steady "v"))),
    (.epoch, .resume (.caller 0)),
    (.epoch, .resume (.job 0)),
    (.epoch, .writeAnswered (.job 0) (.ok ()))]

/-- The fetch it has joined has brought an answer, nothing is left to be done, and nobody has
written this answer for as long as the lookup wanted. -/
theorem left_joiner_unwritten :
    let s := (start ⟨none⟩ 1).run leftJoiner
    s.proxy.callers[1]? = some ⟨.lookup minutely "k" (), .gone⟩ ∧
      flight? s.past 1 = some ⟨0, false⟩ ∧
      s.proxy.fetches.result? 0 = some (.ok (.steady "v")) ∧
      s.due = [] ∧ s.proxy.queued = [] ∧
      ∀ task, ¬Wrote s.past task "k" "v" (minutely.ttlFor "v") := by
  intro s
  refine ⟨rfl, rfl, rfl, rfl, rfl, ?_⟩
  rintro task ⟨t, ht, v, writes, -⟩
  have there : ⟨"k", v, minutely.ttlFor "v"⟩ ∈ begun s.past :=
    List.mem_flatMap.2 ⟨t, ht, List.mem_filterMap.2 ⟨_, writes, rfl⟩⟩
  have only : begun s.past =
      [⟨"k", (Fetched.steady "v").stamp .epoch, Policy.default.ttlFor "v"⟩] := rfl
  rw [only] at there
  have same : minutely.ttlFor "v" = Policy.default.ttlFor "v" :=
    congrArg Write.ttl (List.mem_singleton.1 there)
  exact absurd same (by decide)

end Scene

end ReadThrough
