import ReadThrough.Proofs.Proxy.Scene

/-!
# No deadlock, and no work left behind

When nobody outside owes the proxy anything, nothing inside it waits: every fetch is over, the
pool is empty and has all its permits, and every caller that has not left has its answer
(`at_rest`). Everything that could wait forever waits, in the end, for a fetch or for a permit.
A fetch waits for nothing but its own errands, so it is over. A job that holds a permit writes,
or waits for a fetch, so none holds one; then none waits for one either, and the count falls to
zero and lets the drains go.

The knot that must not tie itself is a refresh that holds the last permit while it waits for a
fetch whose write will need one. It does not: the fetch hands its write over and ends, and no
errand of a fetch asks for a permit. So whatever the pool does, a fetch that a refresh waits for
has an errand out that brings it nearer to its end.
-/

set_option autoImplicit false

namespace ReadThrough

/-- The errand is of no use any more: its caller has its answer, or has left. -/
def Errand.isVain {ω : Type} (p : Proxy ω) (d : Errand) : Bool :=
  match d.task with
  | .caller c => ((p.stage? c).map Caller.Stage.isSettled).getD false
  | _ => false

namespace Proxy

variable {ω : Type} {now : Moment} {p p' : Proxy ω}

/-- No task needs anything from outside. -/
def Idle (p : Proxy ω) : Prop := ∀ t, p.next? t = none

/-! ## What an idle proxy has come to -/

theorem Idle.fetch (h : p.Idle) {id : Nat} {f : Fetch (Plan ω)}
    (at_ : p.fetches.fetches[id]? = some f) : ∃ r, f.stage = .ended r := by
  have needs := h (.fetch id)
  rw [next?_fetch at_] at needs
  cases hs : f.stage with
  | ended r => exact ⟨r, rfl⟩
  | queued | asking | storing a =>
    rw [hs] at needs
    cases needs

theorem Idle.save (h : p.Idle) {s : Nat} {x : Save} (at_ : p.saves[s]? = some x) :
    ∃ r, x.stage = .ended r := by
  have needs := h (.save s)
  rw [next?_save at_] at needs
  cases hs : x.stage with
  | ended r => exact ⟨r, rfl⟩
  | queued | writing =>
    rw [hs] at needs
    cases needs

theorem Idle.result? (h : p.Idle) {id : Nat} (there : id < p.fetches.fetches.length) :
    ∃ r, p.fetches.result? id = some r := by
  obtain ⟨r, known⟩ := h.fetch (List.getElem?_eq_getElem there)
  exact ⟨r, Coalescer.result?_eq_some_iff.2 ⟨_, List.getElem?_eq_getElem there, known⟩⟩

/-- No job holds a permit: it would write, or its fetch would be over. -/
theorem Idle.job (h : p.Idle) (sane : p.Sane) {j : Nat} {x : Job Work}
    (at_ : p.pool.jobs[j]? = some x) : x.stage = .queued ∨ x.stage = .ended := by
  have needs := h (.job j)
  rw [next?_job at_] at needs
  obtain ⟨work, s⟩ := x
  cases s with
  | queued => exact Or.inl rfl
  | ended => exact Or.inr rfl
  | spawned | granted => cases work <;> cases needs
  | running =>
    cases work with
    | writeBack => cases needs
    | refresh storeKey f =>
      -- The fetch waits for nobody, so it is over, and the refresh would have to be woken.
      obtain ⟨r, known⟩ := h.result? (sane.refreshes j _ storeKey f at_ rfl)
      simp [jobNeeds?, known] at needs

theorem Idle.held (h : p.Idle) (sane : p.Sane) : p.pool.held = 0 := by
  apply List.countP_eq_zero.2
  intro x hx holds
  obtain ⟨j, hj⟩ := List.getElem?_of_mem hx
  rcases h.job sane hj with e | e <;> rw [e] at holds <;> cases holds

/-- All permits are free, so nobody queues for one. -/
theorem Idle.permits (h : p.Idle) (sane : p.Sane) :
    p.pool.free = p.pool.limit ∧ p.pool.queue = [] := by
  have sum := sane.balanced.permits.sum
  have positive := sane.balanced.permits.positive
  rw [h.held sane] at sum
  refine ⟨by omega, ?_⟩
  by_cases none_waits : p.pool.queue = []
  · exact none_waits
  · have := sane.balanced.permits.full none_waits
    omega

theorem Idle.ended (h : p.Idle) (sane : p.Sane) {j : Nat} {x : Job Work}
    (at_ : p.pool.jobs[j]? = some x) : x.stage = .ended := by
  rcases h.job sane at_ with queued | ended
  · have waits : j ∈ p.pool.queue := by
      refine (sane.balanced.permits.queued j).2 ?_
      rw [Pool.stage?, at_, Option.map_some, queued]
    rw [(h.permits sane).2] at waits
    cases waits
  · exact ended

theorem Idle.pending (h : p.Idle) (sane : p.Sane) : p.pending = 0 := by
  have sum := sane.balanced.tally.sum
  have unfinished : p.pool.unfinished = 0 := by
    apply List.countP_eq_zero.2
    intro x hx alive
    obtain ⟨j, hj⟩ := List.getElem?_of_mem hx
    rw [h.ended sane hj] at alive
    cases alive
  have guards : p.pool.guards = [] := by
    have none_out : p.fetches.fetches.filterMap Fetch.guard? = [] := by
      apply List.filterMap_eq_nil_iff.2
      intro f hf
      obtain ⟨id, hid⟩ := List.getElem?_of_mem hf
      obtain ⟨r, known⟩ := h.fetch hid
      simp [Fetch.guard?, known, Fetch.Stage.isAlive]
    have books := sane.guards
    rw [none_out] at books
    exact books.eq_nil
  rw [unfinished, guards] at sum
  exact sum

theorem Idle.caller (h : p.Idle) (sane : p.Sane) {c : Nat} {x : Caller ω}
    (at_ : p.callers[c]? = some x) : x.stage.isSettled = true := by
  have needs := h (.caller c)
  rw [next?_caller at_] at needs
  have seat := sane.seated c x at_
  obtain ⟨request, s⟩ := x
  cases s with
  | answered | gone => rfl
  | reading | writing | deleting => cases needs
  | waiting flight =>
    obtain ⟨policy, key, origin, f, -, hf, -⟩ := seat
    obtain ⟨r, known⟩ := h.result? (List.getElem?_eq_some_iff.1 hf).1
    simp [callerNeeds?, known] at needs
  | saving s payload =>
    have there : p.saves[s]? = some _ := List.getElem?_eq_getElem seat
    obtain ⟨r, ended⟩ := h.save there
    have known : p.saveOver s = true := saveOver_eq_true_iff.2 ⟨_, r, there, ended⟩
    simp [callerNeeds?, known] at needs
  | draining w =>
    rcases seat with parked | woken
    · -- Nobody is parked while nothing is pending.
      exact absurd parked (sane.balanced.tally.quiet (h.pending sane) w)
    · simp [callerNeeds?, woken] at needs

theorem Idle.underWay (h : p.Idle) (sane : p.Sane) : p.underWay = 0 := by
  refine Table.size_eq_zero fun key => Option.eq_none_iff_forall_ne_some.2 ?_
  intro id taken
  obtain ⟨f, hf, -, alive⟩ := (sane.sound key id).1 taken
  obtain ⟨r, known⟩ := h.fetch hf
  rw [known] at alive
  cases alive

/-! ## What no step changes -/

theorem Boards.limit {policy : Policy} {key : String} {origin : ω} {guarded : Bool}
    {p₁ : Proxy ω} {flight : Flight} {fx : List (Effect ω)}
    (b : p.Boards policy key origin guarded p₁ flight fx) : p₁.pool.limit = p.pool.limit := by
  cases b with
  | leadThrough | leadBack | joinThrough => rfl
  | joinBack => exact (Pool.Keeps.giveBack _ _).limit

/-- The pool never has more or fewer permits than it was built with. -/
theorem Step.limit {e : Event ω} {fx : List (Effect ω)} (step : p.Step now e fx p') :
    p'.pool.limit = p.pool.limit := by
  cases step with
  | force policy key origin p₁ flight fx some_key forced how => exact how.limit
  | miss c policy key origin o p₁ flight fx at_ missing how => exact how.limit
  | stale c policy key origin v p₁ flight fx at_ live old how => exact how.limit
  | passOn id f a policy storeKey guard pool₁ pool₂ spawned idle at_ stage plan spawn back =>
    have given := (Pool.Keeps.giveBack pool₁ guard).limit
    rw [back] at given
    cases spawn
    exact given
  | failBack id f r err guard pool₁ idle at_ stage bad plan back =>
    have given := (Pool.Keeps.giveBack p.pool guard).limit
    rw [back] at given
    exact given
  | queue j pool₁ resumed => exact (Pool.Keeps.resume? resumed).limit
  | write j pool₁ storeKey v ttl resumed => exact (Pool.Keeps.resume? resumed).limit
  | await j pool₁ storeKey f resumed => exact (Pool.Keeps.resume? resumed).limit
  | skip j pool₁ pool₂ storeKey f r wakes resumed at_ known finished =>
    exact ((Pool.Keeps.resume? resumed).trans (.finish? finished)).limit
  | endJob j work e r pool₁ wakes at_ how finished => exact (Pool.Keeps.finish? finished).limit
  | arrive | drain | settle | again | drained | parks | leaveDrain | ask | store | failThrough
  | stored | save | saved => rfl

theorem gone_of_setStage {c d : Nat} {s : Caller.Stage}
    (h : (p.setStage c s).stage? d = some .gone) :
    p.stage? d = some .gone ∨ (s = .gone ∧ c = d) := by
  obtain ⟨x, hx, e⟩ := Option.map_eq_some_iff.1 h
  rcases getElem?_setStage_cases hx with ⟨same, y, -, rfl⟩ | ⟨-, old⟩
  · exact Or.inr ⟨e, same⟩
  · exact Or.inl (by rw [stage?, old, Option.map_some, e])

theorem gone_of_addCaller {d : Nat} {r : Request ω} {s : Caller.Stage}
    (h : (p.addCaller r s).stage? d = some .gone) (stays : s ≠ .gone) :
    p.stage? d = some .gone := by
  rw [stage?, getElem?_addCaller] at h
  split at h
  · exact absurd (Option.some.inj h) stays
  · exact h

/-- Whoever is gone has stopped waiting. -/
theorem Step.gone {e : Event ω} {fx : List (Effect ω)} (step : p.Step now e fx p') {d : Nat}
    (h : p'.stage? d = some .gone) : p.stage? d = some .gone ∨ e = .abandoned d := by
  cases step with
  | arrive r fx s how =>
    refine Or.inl (gone_of_addCaller h ?_)
    cases how <;> simp
  | force policy key origin p₁ flight fx some_key forced how =>
    have before := gone_of_addCaller h (by simp)
    rw [stage?, how.callers] at before
    exact Or.inl before
  | drain =>
    refine Or.inl (gone_of_addCaller h ?_)
    split <;> simp
  | settle c x e fx s at_ how =>
    rcases gone_of_setStage h with before | ⟨rfl, rfl⟩
    · exact Or.inl before
    · cases how
      exact Or.inr rfl
  | miss c policy key origin o p₁ flight fx at_ missing how =>
    rcases gone_of_setStage h with before | ⟨e, -⟩
    · rw [stage?, how.callers] at before
      exact Or.inl before
    · cases e
  | stale c policy key origin v p₁ flight fx at_ live old how =>
    rcases gone_of_setStage h with before | ⟨e, -⟩
    · change (p₁.callers[d]?).map Caller.stage = _ at before
      rw [how.callers] at before
      exact Or.inl before
    · cases e
  | again | drained =>
    rcases gone_of_setStage h with before | ⟨e, -⟩
    · exact Or.inl before
    · cases e
  | leaveDrain c q w at_ =>
    rcases gone_of_setStage h with before | ⟨-, rfl⟩
    · exact Or.inl before
    · exact Or.inr rfl
  | parks | ask | store | passOn | failThrough | failBack | stored | queue | write | await | skip
  | endJob | save | saved => exact Or.inl h

end Proxy

namespace Scene

variable {ω : Type}

/-- The errands that somebody still wants run. -/
def outstanding (s : Scene ω) : List Errand := s.due.filter fun d => !d.isVain s.proxy

def Abandoned (s : Scene ω) (c : Nat) : Prop := ∃ t ∈ s.past, t.event = .abandoned c

theorem limit_run (keys : KeyScheme) (maxTasks : Nat) (es : List (Moment × Event ω)) :
    ((start keys maxTasks).run es).proxy.pool.limit = max 1 maxTasks :=
  proxy_induction (P := fun p => p.pool.limit = max 1 maxTasks)
    (fun _ _ _ _ _ h step => step.limit.trans h) rfl es

theorem abandoned_run (keys : KeyScheme) (maxTasks : Nat) (es : List (Moment × Event ω)) {c : Nat}
    (h : ((start keys maxTasks).run es).proxy.stage? c = some .gone) :
    ((start keys maxTasks).run es).Abandoned c := by
  refine run_induction (P := fun s => s.proxy.stage? c = some .gone → s.Abandoned c) ?_
    (fun gone => by simp [start, Proxy.ofPool, Proxy.stage?] at gone) es h
  intro s now e ih gone
  rcases s.act_cases now e with ⟨-, same⟩ | ⟨p, fx, -, taken, acted⟩
  · rw [same] at gone ⊢
    exact ih gone
  · rw [acted] at gone ⊢
    rcases taken.gone gone with before | left
    · obtain ⟨t, ht, he⟩ := ih before
      exact ⟨t, List.mem_cons_of_mem _ ht, he⟩
    · exact ⟨_, List.mem_cons_self, left⟩

theorem Covered.idle {s : Scene ω} (h : s.Covered) (rest : s.outstanding = []) : s.proxy.Idle := by
  intro t
  apply Option.eq_none_iff_forall_ne_some.2
  intro d needed
  have vain : d.isVain s.proxy = true := by
    have none_left := List.filter_eq_nil_iff.1 rest d (h t d needed)
    simpa using none_left
  have task := Proxy.task_of_next? needed
  -- An errand in vain is one of a caller that needs nothing.
  rw [Errand.isVain, task] at vain
  cases t with
  | fetch | job | save => cases vain
  | caller c =>
    obtain ⟨x, hx, needed⟩ := Option.bind_eq_some_iff.1 needed
    simp only [Proxy.stage?, hx, Option.map_some, Option.getD_some] at vain
    rw [Proxy.callerNeeds?_of_settled vain] at needed
    cases needed

/-- A fetch that is under way has an errand of its own out, and whatever that errand brings, the
fetch comes nearer to its end by it. -/
theorem Covered.fetch {s : Scene ω} (h : s.Covered) (sane : s.proxy.Sane) {id : Nat}
    (there : id < s.proxy.fetches.fetches.length) (running : s.proxy.fetches.result? id = none) :
    ∃ d ∈ s.due, d.task = .fetch id ∧ ∀ now e, e.errand? = some d →
      ∃ p fx, s.proxy.step now e = some (p, fx) ∧ p.rounds id < s.proxy.rounds id := by
  have at_ := List.getElem?_eq_getElem there
  obtain ⟨d, needed⟩ : ∃ d, s.proxy.next? (.fetch id) = some d := by
    rw [Proxy.next?_fetch at_]
    cases hs : (s.proxy.fetches.fetches[id]).stage with
    | queued | asking | storing a => exact ⟨_, rfl⟩
    | ended r =>
      rw [Coalescer.result?_eq_some_iff.2 ⟨_, at_, hs⟩] at running
      cases running
  have task := Proxy.task_of_next? needed
  refine ⟨d, h _ d needed, task, ?_⟩
  intro now e run
  obtain ⟨p, fx, moves⟩ := Proxy.step_of_next? sane needed run now
  exact ⟨p, fx, moves, (Proxy.step_cases moves).rounds_lt run task⟩

/-- **Nothing waits forever, and nothing is left behind.** Take any state that a run comes to,
under any number of permits. If no errand is outstanding, then no key is taken and every fetch is
over; nothing is pending, all permits are free and every job has ended; every save has ended; and
every caller has its answer, unless it stopped waiting. And at any time, whether or not anything
is outstanding, a refresh that holds a permit either is to be resumed, because its fetch is over,
or its fetch has an errand of its own out, which brings the fetch nearer to its end whatever it
brings and whoever holds the permits. -/
theorem at_rest (keys : KeyScheme) (maxTasks : Nat) (es : List (Moment × Event ω)) :
    let s := (start keys maxTasks).run es
    (s.outstanding = [] →
      s.proxy.underWay = 0 ∧
      (∀ id, id < s.proxy.fetches.fetches.length → ∃ r, s.proxy.fetches.result? id = some r) ∧
      s.proxy.pending = 0 ∧ s.proxy.pool.free = max 1 maxTasks ∧
      (∀ (j : Nat) (x : Job Work), s.proxy.pool.jobs[j]? = some x → x.stage = .ended) ∧
      (∀ (i : Nat) (x : Save), s.proxy.saves[i]? = some x → ∃ r, x.stage = .ended r) ∧
      (∀ c, c < s.proxy.callers.length → (∃ r, s.proxy.result? c = some r) ∨ s.Abandoned c)) ∧
    (∀ (j : Nat) (storeKey : String) (id : Nat),
      s.proxy.pool.jobs[j]? = some ⟨.refresh storeKey id, .running⟩ →
      ((∃ r, s.proxy.fetches.result? id = some r) ∧ .wake (.job j) ∈ s.due) ∨
      ∃ d ∈ s.due, d.task = .fetch id ∧ ∀ now e, e.errand? = some d →
        ∃ p fx, s.proxy.step now e = some (p, fx) ∧ p.rounds id < s.proxy.rounds id) := by
  intro s
  have sane : s.proxy.Sane := sane_run keys maxTasks es
  have covered : s.Covered := covered_run keys maxTasks es
  constructor
  · intro rest
    have idle := covered.idle rest
    refine ⟨idle.underWay sane, fun id there => idle.result? there, idle.pending sane, ?_,
      fun j x at_ => idle.ended sane at_, fun i x at_ => idle.save at_, ?_⟩
    · rw [(idle.permits sane).1]
      exact limit_run keys maxTasks es
    · intro c there
      have at_ := List.getElem?_eq_getElem there
      have settled := idle.caller sane at_
      cases hs : (s.proxy.callers[c]).stage with
      | answered r =>
        refine Or.inl ⟨r, ?_⟩
        rw [Proxy.result?, Proxy.stage?, at_, Option.map_some, hs]
      | gone =>
        refine Or.inr (abandoned_run keys maxTasks es ?_)
        rw [Proxy.stage?, at_, Option.map_some, hs]
      | reading | waiting | saving | writing | deleting | draining =>
        rw [hs] at settled
        cases settled
  · intro j storeKey id at_
    have there := sane.refreshes j _ storeKey id at_ rfl
    cases known : s.proxy.fetches.result? id with
    | none => exact Or.inr (covered.fetch sane there known)
    | some r =>
      refine Or.inl ⟨⟨r, rfl⟩, covered (.job j) _ ?_⟩
      rw [Proxy.next?_job at_]
      simp [Proxy.jobNeeds?, known]

/-- A stale entry is served; its refresh takes the only permit and waits for its fetch; and the
fetch hands its write to the pool, where it has to queue behind the refresh. Somebody drains. -/
def onePermit : List (Moment × Event Unit) :=
  let policy := Policy.staleWhileRevalidate .zero
  [(.epoch, .request (.lookup policy "k" ())),
    (.ofSeconds 1, .readAnswered 0 (.ok (some (.stamped .epoch "old" false)))),
    (.ofSeconds 1, .request .drain),
    (.ofSeconds 1, .resume (.job 0)),
    (.ofSeconds 1, .resume (.fetch 0)),
    (.ofSeconds 2, .originAnswered 0 (.ok (.steady "new"))),
    (.ofSeconds 2, .resume (.job 1)),
    (.ofSeconds 2, .resume (.job 0)),
    (.ofSeconds 2, .resume (.job 1)),
    (.ofSeconds 3, .writeAnswered (.job 1) (.ok ())),
    (.ofSeconds 3, .resume (.caller 1))]

theorem at_rest_onePermit :
    ((start ⟨none⟩ 1).run onePermit).outstanding = [] ∧
      ((start ⟨none⟩ 1).run onePermit).proxy.underWay = 0 ∧
      ((start ⟨none⟩ 1).run onePermit).proxy.pending = 0 ∧
      ((start ⟨none⟩ 1).run onePermit).proxy.pool.free = 1 := by
  have rest : ((start ⟨none⟩ 1).run onePermit).outstanding = [] := by decide
  obtain ⟨taken, -, pending, free, -⟩ := (at_rest ⟨none⟩ 1 onePermit).1 rest
  exact ⟨rest, taken, pending, free⟩

end Scene

end ReadThrough
