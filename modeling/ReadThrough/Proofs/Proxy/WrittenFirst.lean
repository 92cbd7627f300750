import ReadThrough.Proofs.Proxy.Journeys

/-!
# A forced lookup answers only what has been written

A forced lookup that answers a payload has had it written: under its own key, to live as long as
its own policy says, begun and finished between the coming of the call and its answer. Who makes
this write depends on how the lookup came to its flight. If it leads, the write is part of the
fetch, and everybody waits for it. If it has joined, the fetch may belong to any other call, and
may be written later, under another policy, or not at all; so the lookup writes once more by a
save, and is answered when that is over.

Which of the two it is was settled when the lookup came, and nothing that happens afterwards can
change it. `Backed` says for each place where a forced lookup can stand how far its write has come;
`Backed.turn` carries it over one turn, and the answer is read off its last case.
-/

set_option autoImplicit false

namespace ReadThrough

variable {ω : Type}

/-! ## A write in the time of a call -/

/-- In this turn a write begins for the task. -/
def Turn.Writes (t : Turn ω) (task : Task) : Prop :=
  ∃ storeKey v ttl, .write task storeKey v ttl ∈ t.effects

/-- During the call a write of the payload has begun for the task, and it has begun no other
since. -/
def HasBegun (past : List (Turn ω)) (c : Nat) (task : Task) (storeKey payload : String)
    (ttl : Duration) : Prop :=
  ∃ recent u earlier v, past = recent ++ u :: earlier ∧ u.Within c ∧
    .write task storeKey v ttl ∈ u.effects ∧ v.payload = payload ∧ v.absent = false ∧
    ∀ t ∈ recent, ¬t.Writes task

/-- During the call a write of the payload has begun, and afterwards, still during the call, the
store has answered that it is done. -/
def HasStored (past : List (Turn ω)) (c : Nat) (storeKey payload : String) (ttl : Duration) : Prop :=
  ∃ recent t earlier task, past = recent ++ t :: earlier ∧ t.Within c ∧
    t.event = .writeAnswered task (.ok ()) ∧ HasBegun earlier c task storeKey payload ttl

section History

variable {past : List (Turn ω)} {t : Turn ω} {c : Nat} {task : Task} {storeKey payload : String}
  {ttl : Duration}

theorem HasBegun.cons (h : HasBegun past c task storeKey payload ttl) (silent : ¬t.Writes task) :
    HasBegun (t :: past) c task storeKey payload ttl := by
  obtain ⟨recent, u, earlier, v, rfl, within, writes, same, live, rest⟩ := h
  refine ⟨t :: recent, u, earlier, v, rfl, within, writes, same, live, fun w hw => ?_⟩
  rcases List.mem_cons.1 hw with rfl | old
  · exact silent
  · exact rest w old

theorem HasStored.cons (h : HasStored past c storeKey payload ttl) (t : Turn ω) :
    HasStored (t :: past) c storeKey payload ttl := by
  obtain ⟨recent, u, earlier, task, rfl, rest⟩ := h
  exact ⟨t :: recent, u, earlier, task, rfl, rest⟩

end History

namespace Proxy

variable {now : Moment} {p p' : Proxy ω} {e : Event ω} {fx : List (Effect ω)}
  {past : List (Turn ω)} {c : Nat} {policy : Policy} {storeKey : String}

/-! ## Who begins a write -/

theorem Step.asking_of_writes (step : p.Step now e fx p') {id : Nat}
    (writes : Turn.Writes ⟨now, e, p, fx, p'⟩ (.fetch id)) :
    ∃ f, p.fetches.fetches[id]? = some f ∧ f.stage = .asking := by
  obtain ⟨storeKey, v, ttl, write⟩ := writes
  obtain ⟨x, only, asked, orders⟩ :=
    step.orders (d := .write (.fetch id)) rfl (mem_errands.2 ⟨_, write, rfl⟩)
  cases orders with
  | arrive r x s how => cases how <;> cases asked
  | store i f a policy storeKey at_ stage plan =>
    cases asked
    exact ⟨f, at_, stage⟩
  | write | save => cases asked

theorem Step.queued_of_writes (step : p.Step now e fx p') {i : Nat}
    (writes : Turn.Writes ⟨now, e, p, fx, p'⟩ (.save i)) :
    ∃ x, p.saves[i]? = some x ∧ x.stage = .queued := by
  obtain ⟨storeKey, v, ttl, write⟩ := writes
  obtain ⟨x, only, asked, orders⟩ :=
    step.orders (d := .write (.save i)) rfl (mem_errands.2 ⟨_, write, rfl⟩)
  cases orders with
  | arrive r x s how => cases how <;> cases asked
  | save j x at_ stage =>
    cases asked
    exact ⟨x, at_, stage⟩
  | write | store => cases asked

/-- The answer of the origin to a fetch whose write comes first begins this write. -/
theorem Step.writes_through {id : Nat} {f : Fetch (Plan ω)} {a : Fetched}
    (step : p.Step now (.originAnswered id (.ok a)) fx p') (at_ : p.fetches.fetches[id]? = some f)
    (plan : f.plan.after = .writeThrough policy storeKey) :
    .write (.fetch id) storeKey (a.stamp now) (policy.ttlFor a.payload) ∈ fx := by
  cases step with
  | settle d x e fx s here how =>
    cases how with
    | told policy key origin flight r e looks => rcases looks with e | e <;> cases e
  | again d policy key origin flight b e here looks => rcases looks with e | e <;> cases e
  | endJob j work e r pool₁ wakes here how => cases how
  | store i g b policy storeKey here stage through =>
    rw [at_] at here
    cases here
    rw [plan] at through
    cases through
    exact List.mem_singleton.2 rfl
  | passOn i g b policy storeKey guard pool₁ pool₂ spawned idle here stage back =>
    rw [at_] at here
    cases here
    rw [plan] at back
    cases back
  | failThrough i g r err here stage bad => cases bad
  | failBack i g r err guard pool₁ idle here stage bad => cases bad

/-- A save that goes on to the store begins its write. -/
theorem Step.writes_save (step : p.Step now e fx p') {i : Nat} {x : Save}
    (at_ : p.saves[i]? = some x) (queued : x.stage = .queued)
    (after : p'.saves[i]? = some { x with stage := .writing }) :
    .write (.save i) x.storeKey x.value x.ttl ∈ fx := by
  have elsewhere : p.saves[i]? ≠ some { x with stage := .writing } := by
    rw [at_]
    intro same
    rw [Option.some.inj same] at queued
    cases queued
  cases step with
  | save j y here stage =>
    rcases getElem?_set_cases after with ⟨rfl, -⟩ | ⟨-, same⟩
    · rw [at_] at here
      cases here
      exact List.mem_singleton.2 rfl
    · exact absurd same elsewhere
  | saved j y r here stage =>
    rcases getElem?_set_cases after with ⟨-, same⟩ | ⟨-, same⟩
    · cases congrArg Save.stage same
    · exact absurd same elsewhere
  | again d policy key origin flight a e here =>
    refine absurd (Eq.trans ?_ after) elsewhere
    exact ((getElem?_append_singleton ..).trans
      (if_neg (Nat.ne_of_lt (List.getElem?_eq_some_iff.1 at_).1))).symm
  | force policy key origin p₁ flight fx some_key forced how =>
    exact absurd (how.saves ▸ after) elsewhere
  | miss d policy key origin o p₁ flight fx here missing how =>
    exact absurd (how.saves ▸ after) elsewhere
  | stale d policy key origin v p₁ flight fx here live old how =>
    exact absurd (how.saves ▸ after) elsewhere
  | arrive | drain | settle | drained | parks | leaveDrain | ask | store | passOn | failThrough
  | failBack | stored | queue | write | await | skip | endJob => exact absurd after elsewhere

/-! ## How far the write of a forced lookup has come -/

/-- The caller leads this fetch, and the fetch writes for it. -/
structure Leads (past : List (Turn ω)) (p : Proxy ω) (c : Nat) (policy : Policy)
    (storeKey : String) (id : Nat) (f : Fetch (Plan ω)) : Prop where
  at_ : p.fetches.fetches[id]? = some f
  plan : f.plan.after = .writeThrough policy storeKey
  begun : ∀ a, f.stage = .storing a →
    HasBegun past c (.fetch id) storeKey a.payload (policy.ttlFor a.payload)
  stored : ∀ a, f.stage = .ended (.ok a) →
    HasStored past c storeKey a.payload (policy.ttlFor a.payload)

/-- The caller writes this payload by a save of its own. -/
structure Saves (past : List (Turn ω)) (p : Proxy ω) (c : Nat) (policy : Policy)
    (storeKey : String) (i : Nat) (payload : String) (x : Save) : Prop where
  at_ : p.saves[i]? = some x
  under : x.storeKey = storeKey
  holds : x.value.payload = payload
  live : x.value.absent = false
  lives : x.ttl = policy.ttlFor payload
  begun : x.stage = .writing → HasBegun past c (.save i) storeKey payload (policy.ttlFor payload)
  stored : x.stage = .ended (.ok ()) → HasStored past c storeKey payload (policy.ttlFor payload)

/-- How far the write of a forced lookup has come where the lookup stands. It never waits for a
read of the store; and while it waits for a flight that it does not lead, there is nothing to
write yet. -/
def Backed (past : List (Turn ω)) (p : Proxy ω) (c : Nat) (policy : Policy) (storeKey : String) :
    Caller.Stage → Prop
  | .reading => False
  | .waiting ⟨id, true⟩ => ∃ f, p.Leads past c policy storeKey id f
  | .saving i payload => ∃ x, p.Saves past c policy storeKey i payload x
  | .answered (.ok (.found payload false)) =>
    HasStored past c storeKey payload (policy.ttlFor payload)
  | _ => True

theorem Leads.turn {id : Nat} {f : Fetch (Plan ω)} (h : p.Leads past c policy storeKey id f)
    (sane : p.Sane) (step : p.Step now e fx p') (within : Turn.Within ⟨now, e, p, fx, p'⟩ c) :
    ∃ g, p'.Leads (⟨now, e, p, fx, p'⟩ :: past) c policy storeKey id g := by
  obtain ⟨g, still, -, plan⟩ := step.keeps_fetch h.at_
  refine ⟨g, still, by rw [plan]; exact h.plan, fun a storing => ?_, fun a ended => ?_⟩
  · cases step.proceeds still with
    | started g w wished new => exact absurd (List.getElem?_eq_some_iff.1 h.at_).1 (by omega)
    | stays g at_ =>
      obtain rfl : f = g := Option.some.inj (h.at_.symm.trans at_)
      refine (h.begun a storing).cons fun writes => ?_
      -- The write begins when the origin answers, and that was before.
      obtain ⟨f', at_', asking⟩ := step.asking_of_writes writes
      rw [at_] at at_'
      cases at_'
      rw [storing] at asking
      cases asking
    | asked | failed | stored => cases storing
    | answered f' b s at_ asking event stage =>
      obtain rfl : s = .storing a := storing
      obtain rfl : b = a := by
        rcases stage with same | other
        · exact (Fetch.Stage.storing.inj same).symm
        · cases other
      subst event
      exact ⟨[], _, past, _, rfl, within, step.writes_through h.at_ h.plan, rfl, rfl,
        fun t ht => by cases ht⟩
  · have known : p'.fetches.result? id = some (.ok a) :=
      Coalescer.result?_eq_some_iff.2 ⟨g, still, ended⟩
    cases before : p.fetches.result? id with
    | some r =>
      obtain rfl : r = .ok a := Option.some.inj ((step.result? before).symm.trans known)
      obtain ⟨f', at_, finished⟩ := Coalescer.result?_eq_some_iff.1 before
      rw [h.at_] at at_
      cases at_
      exact (h.stored a finished).cons _
    | none =>
      obtain ⟨f', at_, how⟩ := step.ends sane before known
      rw [h.at_] at at_
      cases at_
      rcases how with ⟨o, -, told, plain⟩ | ⟨b, o, rfl, storing, -, told⟩
      · -- What the origin has answered is not the end yet.
        cases o with
        | ok b => exact absurd rfl (plain (by rw [h.plan]; rfl) b)
        | failed | crashed => cases told
      · cases o with
        | ok u =>
          cases told
          exact ⟨[], _, past, _, rfl, within, rfl, h.begun b storing⟩
        | failed | crashed => cases told

theorem Saves.turn {i : Nat} {payload : String} {x : Save}
    (h : p.Saves past c policy storeKey i payload x) (step : p.Step now e fx p')
    (within : Turn.Within ⟨now, e, p, fx, p'⟩ c) :
    ∃ y, p'.Saves (⟨now, e, p, fx, p'⟩ :: past) c policy storeKey i payload y := by
  have there := (List.getElem?_eq_some_iff.1 h.at_).1
  obtain ⟨y, still⟩ : ∃ y, p'.saves[i]? = some y :=
    ⟨_, List.getElem?_eq_getElem (Nat.lt_of_lt_of_le there step.saves_length_le)⟩
  rcases step.save_cases still with same | ⟨new, -⟩ | ⟨z, before, how⟩
  · obtain rfl : x = y := Option.some.inj (h.at_.symm.trans same)
    refine ⟨x, still, h.under, h.holds, h.live, h.lives, fun writing => ?_,
      fun finished => (h.stored finished).cons _⟩
    refine (h.begun writing).cons fun writes => ?_
    obtain ⟨z, here, queued⟩ := step.queued_of_writes writes
    rw [same] at here
    cases here
    rw [writing] at queued
    cases queued
  · rw [h.at_] at new
    cases new
  · rw [h.at_] at before
    cases before
    rcases how with ⟨queued, rfl⟩ | ⟨writing, o, rfl, rfl⟩
    · have write := step.writes_save h.at_ queued still
      rw [h.under, h.lives] at write
      exact ⟨_, still, h.under, h.holds, h.live, h.lives,
        fun _ => ⟨[], _, past, _, rfl, within, write, h.holds, h.live, fun t ht => by cases ht⟩,
        nofun⟩
    · refine ⟨_, still, h.under, h.holds, h.live, h.lives, nofun, fun finished => ?_⟩
      cases o with
      | ok u => exact ⟨[], _, past, _, rfl, within, rfl, h.begun writing⟩
      | failed | crashed => cases finished

/-- While the lookup stays where it is, its write goes on. -/
theorem Backed.stays {x : Caller ω} (h : p.Backed past c policy storeKey x.stage) (sane : p.Sane)
    (step : p.Step now e fx p') (at_ : p'.callers[c]? = some x)
    (same : p'.callers[c]? = p.callers[c]?) :
    p'.Backed (⟨now, e, p, fx, p'⟩ :: past) c policy storeKey x.stage := by
  have within : x.stage.isSettled = false → Turn.Within ⟨now, e, p, fx, p'⟩ c := by
    refine fun waits => ⟨(List.getElem?_eq_some_iff.1 at_).1, fun y before => ?_⟩
    rw [← same, at_] at before
    cases before
    exact waits
  obtain ⟨q, s⟩ := x
  cases s with
  | reading => exact h
  | waiting flight =>
    obtain ⟨id, leader⟩ := flight
    cases leader with
    | false => trivial
    | true =>
      obtain ⟨f, leads⟩ := h
      exact leads.turn sane step (within rfl)
  | saving i payload =>
    obtain ⟨y, saves⟩ := h
    exact saves.turn step (within rfl)
  | answered r =>
    match r, h with
    | .ok (.found payload false), stored => exact HasStored.cons stored _
    | .ok (.found payload true), _ | .ok .done, _ | .failed err, _ | .crashed text, _ => trivial
  | writing | deleting | draining | gone => trivial

/-- A lookup is answered when its write is over. -/
theorem Settles.backed {key : String} {origin : ω} {s s' : Caller.Stage}
    (how : p.Settles now c ⟨.lookup policy key origin, s⟩ e fx s') (forced : policy.force = true)
    (h : p.Backed past c policy storeKey s) (t : Turn ω) :
    p'.Backed (t :: past) c policy storeKey s' := by
  cases how with
  | unread | hit => exact h.elim
  | told policy key origin flight r e looks known plain =>
    cases r with
    | error err => trivial
    | ok a =>
      have own := plain a rfl
      obtain ⟨id, leader⟩ := flight
      cases leader with
      | false =>
        rw [forced] at own
        cases own
      | true =>
        obtain ⟨f, leads⟩ := h
        obtain ⟨g, at_, ended⟩ := Coalescer.result?_eq_some_iff.1 known
        rw [leads.at_] at at_
        cases at_
        exact (leads.stored a ended).cons t
  | saved r i payload x result there known =>
    cases result with
    | error err => trivial
    | ok u =>
      obtain ⟨y, saves⟩ := h
      rw [saves.at_] at there
      cases there
      exact (saves.stored known).cons t
  | written q r | deleted q r => cases r <;> trivial
  | gaveUp | crashed | left => trivial

/-- Every forced lookup that has a key is backed. -/
def Underwritten (past : List (Turn ω)) (p : Proxy ω) : Prop :=
  ∀ (c : Nat) (policy : Policy) (key : String) (origin : ω) (s : Caller.Stage),
    p.callers[c]? = some ⟨.lookup policy key origin, s⟩ → policy.force = true → key ≠ "" →
      p.Backed past c policy (p.keys.build key) s

theorem Underwritten.turn (h : p.Underwritten past) (sane : p.Sane) (step : p.Step now e fx p') :
    p'.Underwritten (⟨now, e, p, fx, p'⟩ :: past) := by
  intro c policy key origin s at_ forced some_key
  rw [step.keys]
  by_cases moved : p'.callers[c]? = p.callers[c]?
  case pos => exact (h c policy key origin s (moved ▸ at_) forced some_key).stays sane step at_ moved
  cases step with
  | arrive r fx s' how =>
    obtain ⟨-, e⟩ := newcomer_of_addCaller at_ moved
    cases e
    cases how with
    | vacuous r a blank => exact absurd (Option.some.inj blank) some_key
    | read policy key origin some_key gentle =>
      rw [forced] at gentle
      cases gentle
  | force policy key origin p₁ flight fx some_key forced how =>
    have callers := how.callers
    obtain ⟨-, e⟩ := newcomer_of_addCaller at_ (by rw [callers]; exact moved)
    cases e
    cases how with
    | leadThrough free =>
      refine ⟨⟨key, ⟨origin, .writeThrough policy (p.keys.build key)⟩, .queued⟩, ?_, rfl, nofun, nofun⟩
      exact (Coalescer.getElem?_start ..).trans (if_pos rfl)
    | joinThrough => trivial
  | drain =>
    obtain ⟨-, e⟩ := newcomer_of_addCaller (p := { p with pool := _ }) at_ moved
    cases e
  | settle d x e fx s' here how =>
    obtain ⟨rfl, ⟨q, waited⟩, before, e⟩ := mover_of_setStage at_ moved
    rw [before] at here
    cases here
    cases e
    exact how.backed forced (h _ _ _ _ _ before forced some_key) _
  | miss d policy key origin o p₁ flight fx here missing how =>
    have callers := how.callers
    obtain ⟨rfl, y, before, e⟩ := mover_of_setStage at_ (by rw [callers]; exact moved)
    rw [callers, here] at before
    cases before
    cases e
    exact (h _ _ _ _ _ here forced some_key).elim
  | stale d policy key origin v p₁ flight fx here live old how =>
    have callers := how.callers
    obtain ⟨rfl, y, before, e⟩ :=
      mover_of_setStage (p := { p₁ with pool := _ }) at_ (by rw [← callers] at moved; exact moved)
    change p₁.callers[_]? = some y at before
    rw [callers, here] at before
    cases before
    cases e
    exact (h _ _ _ _ _ here forced some_key).elim
  | again d policy key origin flight a e here looks known forced joined =>
    obtain ⟨rfl, y, before, e⟩ := mover_of_setStage (p := { p with saves := _ }) at_ moved
    change p.callers[_]? = some y at before
    rw [here] at before
    cases before
    cases e
    refine ⟨⟨p.keys.build key, a.stamp now, policy.ttlFor a.payload, .queued⟩, ?_, rfl, rfl, rfl,
      rfl, nofun, nofun⟩
    exact (getElem?_append_singleton ..).trans (if_pos rfl)
  | drained d q w here | leaveDrain d q w here =>
    obtain ⟨rfl, ⟨q', s'⟩, before, e⟩ := mover_of_setStage (p := { p with pool := _ }) at_ moved
    cases e
    trivial
  | parks | ask | store | passOn | failThrough | failBack | stored | queue | write | await | skip
  | endJob | save | saved => exact absurd rfl moved

/-- A read of the store is for a lookup that is not forced. -/
theorem Step.gentle_of_reads (step : p.Step now e fx p') (reads : .read c storeKey ∈ fx) :
    ∃ x, p'.callers[c]? = some x ∧
      ∀ policy key origin, x.request = .lookup policy key origin → policy.force = false := by
  obtain ⟨x, only, asked, orders⟩ :=
    step.orders (d := .read c) rfl (mem_errands.2 ⟨_, reads, rfl⟩)
  cases orders with
  | arrive r x s how =>
    cases how with
    | read policy key origin some_key gentle =>
      cases asked
      refine ⟨⟨.lookup policy key origin, .reading⟩, ?_, ?_⟩
      · rw [getElem?_addCaller, if_pos rfl]
      · rintro policy key origin ⟨⟩
        exact gentle
    | set | remove => cases asked
  | store | write | save => cases asked

end Proxy

namespace Scene

theorem underwritten_run (keys : KeyScheme) (maxTasks : Nat) (es : List (Moment × Event ω)) :
    ((start keys maxTasks).run es).proxy.Underwritten ((start keys maxTasks).run es).past := by
  refine turn_induction (P := fun past p => p.Underwritten past) ?_ ?_ es
  · intro es now e fx p taken h
    exact h.turn (sane_run keys maxTasks es) taken
  · intro c policy key origin s at_
    cases at_

/-- **A successful forced refresh has been written.** Whatever goes on beside it, a forced lookup
of some key that is answered a payload, from a fetch that it has led or joined, has had this payload
written: a write under its own key, for as long as its own policy says, has begun and has been done
between the coming of the call and its answer. And the call has read nothing from the store. -/
theorem forced_refresh_written_first (keys : KeyScheme) (maxTasks : Nat)
    (es : List (Moment × Event ω)) {c : Nat} {policy : Policy} {key : String} {origin : ω}
    {payload : String}
    (at_ : ((start keys maxTasks).run es).proxy.callers[c]? =
      some ⟨.lookup policy key origin, .answered (.ok (.found payload false))⟩)
    (forced : policy.force = true) (some_key : key ≠ "") :
    HasStored ((start keys maxTasks).run es).past c (keys.build key) payload
      (policy.ttlFor payload) ∧
    ∀ t ∈ ((start keys maxTasks).run es).past, ∀ storeKey, .read c storeKey ∉ t.effects := by
  constructor
  · have backed := underwritten_run keys maxTasks es c policy key origin _ at_ forced some_key
    rw [(accounted_run keys maxTasks es).scheme] at backed
    exact backed
  · intro t ht storeKey reads
    have trail := trail_run keys maxTasks es
    obtain ⟨x, there, gentle⟩ := (trail.of_mem ht).2.gentle_of_reads reads
    obtain ⟨y, still, same⟩ := trail.lasts (Proxy.lasting_request c x.request) ht ⟨x, there, rfl⟩
    rw [at_] at still
    cases still
    rw [gentle policy key origin same.symm] at forced
    cases forced

/-- A forced lookup joins the fetch of a miss, which does not write before it ends. -/
def joinedMiss : List (Moment × Event Unit) :=
  [(.epoch, .request (.lookup .default "k" ())),
    (.epoch, .readAnswered 0 (.ok none)),
    (.epoch, .request (.lookup { Policy.default with force := true } "k" ())),
    (.epoch, .resume (.fetch 0)),
    (.epoch, .originAnswered 0 (.ok (.steady "v"))),
    (.epoch, .resume (.caller 1)),
    (.epoch, .resume (.save 0)),
    (.epoch, .writeAnswered (.save 0) (.ok ())),
    (.epoch, .resume (.caller 1))]

theorem forced_refresh_written_first_joinedMiss :
    let policy : Policy := { Policy.default with force := true }
    ((start ⟨some "ns"⟩ 1).run joinedMiss).proxy.callers[1]? =
      some ⟨.lookup policy "k" (), .answered (.ok (.found "v" false))⟩ ∧
    HasStored ((start ⟨some "ns"⟩ 1).run joinedMiss).past 1 "ns:k" "v" policy.ttl := by
  intro policy
  have at_ : ((start ⟨some "ns"⟩ 1).run joinedMiss).proxy.callers[1]? =
      some ⟨.lookup policy "k" (), .answered (.ok (.found "v" false))⟩ := rfl
  exact ⟨at_, (forced_refresh_written_first ⟨some "ns"⟩ 1 joinedMiss at_ rfl (by decide)).1⟩

end Scene

end ReadThrough
