import ReadThrough.Proofs.Proxy.Drain

/-!
# What lasts

Some things a proxy never takes back: that somebody has called, the answer of a caller, the
result of a fetch, and that a job is over (`Lasting`). So it makes no difference when one looks,
and what was so after any turn of a run still is (`Trail`).

A result is as good as where it comes from (`CameBy`). It is what the origin has answered; or, if
a forced lookup leads the fetch and the origin had a value, it is what became of the write that
comes before anybody is told. A store that cannot be written is heard of by those who wait for a
fetch in the second way only.
-/

set_option autoImplicit false

namespace ReadThrough

namespace Proxy

variable {ω : Type} {now : Moment} {p p' : Proxy ω} {e : Event ω} {fx : List (Effect ω)}

/-! ## Results of fetches -/

theorem Boards.fetches_move {policy : Policy} {key : String} {origin : ω} {guarded : Bool}
    {p₁ : Proxy ω} {flight : Flight} (b : p.Boards policy key origin guarded p₁ flight fx) :
    p₁.fetches = p.fetches ∨ p.fetches.Move p₁.fetches := by
  cases b with
  | leadThrough free | leadBack free => exact Or.inr (.start key _ free)
  | joinThrough | joinBack => exact Or.inl rfl

/-- A step does at most one thing to the fetches. -/
theorem Step.fetches_move (step : p.Step now e fx p') :
    p'.fetches = p.fetches ∨ p.fetches.Move p'.fetches := by
  cases step with
  | force policy key origin p₁ flight fx some_key forced how => exact how.fetches_move
  | miss c policy key origin o p₁ flight fx at_ missing how => exact how.fetches_move
  | stale c policy key origin v p₁ flight fx at_ live old how => exact how.fetches_move
  | ask id f at_ stage => exact Or.inr (.advance id f _ at_ (by rw [stage]; rfl) rfl)
  | store id f a policy storeKey at_ stage plan =>
    exact Or.inr (.advance id f _ at_ (by rw [stage]; rfl) rfl)
  | passOn id f a policy storeKey guard pool₁ pool₂ spawned idle at_ stage plan spawn back =>
    exact Or.inr (.finish id f _ at_ (by rw [stage]; rfl))
  | failThrough id f r err at_ stage bad plan =>
    exact Or.inr (.finish id f _ at_ (by rw [stage]; rfl))
  | failBack id f r err guard pool₁ idle at_ stage bad plan back =>
    exact Or.inr (.finish id f _ at_ (by rw [stage]; rfl))
  | stored id f a r at_ stage => exact Or.inr (.finish id f _ at_ (by rw [stage]; rfl))
  | arrive | drain | settle | again | drained | parks | leaveDrain | queue | write | await | skip
  | endJob | save | saved => exact Or.inl rfl

/-- The result of a fetch is never taken back. -/
theorem Step.result? (step : p.Step now e fx p') {id : Nat} {r : Except Error Fetched}
    (known : p.fetches.result? id = some r) : p'.fetches.result? id = some r := by
  rcases step.fetches_move with same | move
  · rw [same]
    exact known
  · exact move.result? known

/-- What makes a fetch come to its end. -/
theorem Step.ends (sane : p.Sane) (step : p.Step now e fx p') {id : Nat}
    {r : Except Error Fetched} (running : p.fetches.result? id = none)
    (known : p'.fetches.result? id = some r) :
    ∃ f, p.fetches.fetches[id]? = some f ∧
      ((∃ o, e = .originAnswered id o ∧ r = o.caught Coalescer.crashError ∧
        (f.plan.after.guard? = none → ∀ a, o ≠ .ok a)) ∨
      ∃ a o, e = .writeAnswered (.fetch id) o ∧ f.stage = .storing a ∧
        f.plan.after.guard? = none ∧ r = Coalescer.concluded a o) := by
  have unmoved : p'.fetches.result? id ≠ p.fetches.result? id := by
    rw [known, running]
    simp
  have boarded : ∀ {policy : Policy} {key : String} {origin : ω} {guarded : Bool} {p₁ : Proxy ω}
      {flight : Flight} {gx : List (Effect ω)},
      p.Boards policy key origin guarded p₁ flight gx →
      p₁.fetches.result? id = p.fetches.result? id := by
    intro policy key origin guarded p₁ flight gx how
    cases how with
    | leadThrough | leadBack => exact Coalescer.result?_start ..
    | joinThrough | joinBack => rfl
  have advanced : ∀ {i : Nat} {s : Fetch.Stage}, s.isAlive = true →
      (p.fetches.setStage i s).result? id ≠ some r := by
    intro i s alive ended
    obtain ⟨g, hg, stage⟩ := Coalescer.result?_eq_some_iff.1 ended
    rcases Coalescer.getElem?_setStage_cases hg with ⟨-, h, -, rfl⟩ | ⟨-, before⟩
    · cases stage
      cases alive
    · rw [Coalescer.result?_eq_some_iff.2 ⟨g, before, stage⟩] at running
      cases running
  have finished : ∀ {i : Nat} {key : String} {o : Except Error Fetched},
      (p.fetches.finish key i o).result? id = some r → i = id ∧ o = r := by
    intro i key o ended
    obtain ⟨g, hg, stage⟩ := Coalescer.result?_eq_some_iff.1 ended
    rcases Coalescer.getElem?_finish_cases hg with ⟨same, h, -, rfl⟩ | ⟨-, before⟩
    · exact ⟨same, Fetch.Stage.ended.inj stage⟩
    · rw [Coalescer.result?_eq_some_iff.2 ⟨g, before, stage⟩] at running
      cases running
  cases step with
  | force policy key origin p₁ flight fx some_key forced how => exact absurd (boarded how) unmoved
  | miss c policy key origin o p₁ flight fx at_ missing how => exact absurd (boarded how) unmoved
  | stale c policy key origin v p₁ flight fx at_ live old how =>
    exact absurd (boarded how) unmoved
  | ask i f at_ stage => exact absurd known (advanced rfl)
  | store i f a policy storeKey at_ stage plan => exact absurd known (advanced rfl)
  | passOn i f a policy storeKey guard pool₁ pool₂ spawned idle at_ stage plan spawn back =>
    obtain ⟨rfl, rfl⟩ := finished known
    refine ⟨f, at_, Or.inl ⟨.ok a, rfl, rfl, fun unguarded => ?_⟩⟩
    rw [plan] at unguarded
    cases unguarded
  | failThrough i f o err at_ stage bad plan =>
    obtain ⟨rfl, rfl⟩ := finished known
    refine ⟨f, at_, Or.inl ⟨o, rfl, bad.symm, fun _ a ok => ?_⟩⟩
    rw [ok] at bad
    cases bad
  | failBack i f o err guard pool₁ idle at_ stage bad plan back =>
    obtain ⟨rfl, rfl⟩ := finished known
    refine ⟨f, at_, Or.inl ⟨o, rfl, bad.symm, fun _ a ok => ?_⟩⟩
    rw [ok] at bad
    cases bad
  | stored i f a o at_ stage =>
    obtain ⟨rfl, rfl⟩ := finished known
    exact ⟨f, at_, Or.inr ⟨a, o, rfl, stage, sane.storing i f a at_ stage, rfl⟩⟩
  | arrive | drain | settle | again | drained | parks | leaveDrain | queue | write | await | skip
  | endJob | save | saved => exact absurd rfl unmoved

/-! ## Answers of callers -/

/-- A caller stays, with what it has asked for; and once it has its answer, or has left, nothing
happens to it any more. -/
theorem Step.keeps_caller (step : p.Step now e fx p') {c : Nat} {x : Caller ω}
    (at_ : p.callers[c]? = some x) :
    ∃ y, p'.callers[c]? = some y ∧ y.request = x.request ∧ (x.stage.isSettled = true → y = x) := by
  have there := (List.getElem?_eq_some_iff.1 at_).1
  obtain ⟨y, still⟩ : ∃ y, p'.callers[c]? = some y :=
    ⟨_, List.getElem?_eq_getElem (Nat.lt_of_lt_of_le there step.callers_length_le)⟩
  refine ⟨y, still, ?_⟩
  rcases step.caller_cases still with same | ⟨new, -⟩ | ⟨z, before, request, waited⟩
  · rw [at_] at same
    cases same
    exact ⟨rfl, fun _ => rfl⟩
  · exact absurd there (by omega)
  · rw [at_] at before
    cases before
    refine ⟨request.symm, fun settled => ?_⟩
    rw [waited] at settled
    cases settled

/-! ## What no step takes back -/

def Lasting (P : Proxy ω → Prop) : Prop :=
  ∀ ⦃p : Proxy ω⦄ ⦃now : Moment⦄ ⦃e : Event ω⦄ ⦃fx : List (Effect ω)⦄ ⦃p' : Proxy ω⦄,
    p.Sane → p.Step now e fx p' → P p → P p'

theorem lasting_result? (id : Nat) (r : Except Error Fetched) :
    Lasting fun p : Proxy ω => p.fetches.result? id = some r :=
  fun _ _ _ _ _ _ step known => step.result? known

theorem lasting_fetch (id : Nat) (key : String) (plan : Plan ω) :
    Lasting fun p => ∃ f, p.fetches.fetches[id]? = some f ∧ f.key = key ∧ f.plan = plan := by
  rintro p now e fx p' - step ⟨f, at_, rfl, rfl⟩
  exact step.keeps_fetch at_

theorem lasting_keys (keys : KeyScheme) : Lasting fun p : Proxy ω => p.keys = keys :=
  fun _ _ _ _ _ _ step same => step.keys.trans same

theorem lasting_came (c : Nat) : Lasting fun p : Proxy ω => c < p.callers.length :=
  fun _ _ _ _ _ _ step come => Nat.lt_of_lt_of_le come step.callers_length_le

theorem lasting_request (c : Nat) (r : Request ω) :
    Lasting fun p => ∃ x, p.callers[c]? = some x ∧ x.request = r := by
  rintro p now e fx p' - step ⟨x, at_, rfl⟩
  obtain ⟨y, still, same, -⟩ := step.keeps_caller at_
  exact ⟨y, still, same⟩

theorem lasting_caller (c : Nat) {x : Caller ω} (settled : x.stage.isSettled = true) :
    Lasting fun p => p.callers[c]? = some x := by
  intro p now e fx p' _ step at_
  obtain ⟨y, still, -, same⟩ := step.keeps_caller at_
  rw [same settled] at still
  exact still

theorem lasting_job (j : Nat) {x : Job Work} (ended : x.stage = .ended) :
    Lasting fun p : Proxy ω => p.pool.jobs[j]? = some x := by
  intro p now e fx p' sane step at_
  rcases step.begun_job sane at_ (Or.inr ended) with stays | ⟨running, -⟩
  · exact stays
  · rw [ended] at running
    cases running

end Proxy

/-! ## Looking back over a run -/

/-- The turns from a first state to a last, the latest in front. -/
inductive Trail {ω : Type} (p₀ : Proxy ω) : List (Turn ω) → Proxy ω → Prop
  | start : Trail p₀ [] p₀
  | turn (t : Turn ω) (past : List (Turn ω)) (sofar : Trail p₀ past t.before)
      (sane : t.before.Sane) (step : t.before.Step t.now t.event t.effects t.after) :
      Trail p₀ (t :: past) t.after

namespace Trail

variable {ω : Type} {p₀ p : Proxy ω} {past : List (Turn ω)} {t u : Turn ω} {P Q : Proxy ω → Prop}

theorem of_mem (h : Trail p₀ past p) (ht : t ∈ past) :
    t.before.Sane ∧ t.before.Step t.now t.event t.effects t.after := by
  induction h with
  | start => cases ht
  | turn u past sofar sane step ih =>
    rcases List.mem_cons.1 ht with rfl | ht
    · exact ⟨sane, step⟩
    · exact ih ht

theorem sane_after (h : Trail p₀ past p) (ht : t ∈ past) : t.after.Sane :=
  (h.of_mem ht).1.step (h.of_mem ht).2

/-- What was so at first is so before every turn. -/
theorem throughout (h : Trail p₀ past p) (lasting : Proxy.Lasting P) (first : P p₀) :
    P p ∧ ∀ t ∈ past, P t.before := by
  induction h with
  | start => exact ⟨first, fun t ht => by cases ht⟩
  | turn u past sofar sane step ih =>
    refine ⟨lasting sane step ih.1, fun t ht => ?_⟩
    rcases List.mem_cons.1 ht with rfl | old
    · exact ih.1
    · exact ih.2 t old

/-- What was so after a turn still is. -/
theorem lasts (h : Trail p₀ past p) (lasting : Proxy.Lasting P) (ht : t ∈ past)
    (was : P t.after) : P p := by
  induction h with
  | start => cases ht
  | turn u past sofar sane step ih =>
    rcases List.mem_cons.1 ht with rfl | ht
    · exact was
    · exact lasting sane step (ih ht)

/-- What was so before a turn still is. -/
theorem lasts_since (h : Trail p₀ past p) (lasting : Proxy.Lasting P) (ht : t ∈ past)
    (was : P t.before) : P p :=
  h.lasts lasting ht (lasting (h.of_mem ht).1 (h.of_mem ht).2 was)

/-- Of two turns, the one that has brought something lasting is the later. -/
theorem lasts_between (h : Trail p₀ past p) (first : Proxy.Lasting P) (second : Proxy.Lasting Q)
    (ht : t ∈ past) (hu : u ∈ past) (brought : P u.after) (yet : ¬P t.after) (was : Q t.after) :
    Q u.after := by
  induction h with
  | start => cases ht
  | turn v past sofar sane step ih =>
    rcases List.mem_cons.1 ht with rfl | old <;> rcases List.mem_cons.1 hu with rfl | old'
    · exact absurd brought yet
    · exact absurd (first sane step (sofar.lasts first old' brought)) yet
    · exact second sane step (sofar.lasts second old was)
    · exact ih old old'

end Trail

/-! ## Where results come from -/

/-- How a fetch that was started in some role came by its result. -/
inductive CameBy {ω : Type} (past : List (Turn ω)) (id : Nat) :
    Role → Except Error Fetched → Prop
  /-- It is the origin's answer. Where the write comes first, an answer with a value is not the
  end yet. -/
  | origin (role : Role) (o : Outcome Fetched) (told : ∃ t ∈ past, t.event = .originAnswered id o)
      (plain : role = .forced → ∀ a, o ≠ .ok a) :
      CameBy past id role (o.caught Coalescer.crashError)
  /-- It is what became of the write of the origin's answer. -/
  | write (a : Fetched) (r : Outcome Unit) (fetched : Answered past id a)
      (told : ∃ t ∈ past, t.event = .writeAnswered (.fetch id) r) :
      CameBy past id .forced (Coalescer.concluded a r)

theorem CameBy.cons {ω : Type} {past : List (Turn ω)} {id : Nat} {role : Role}
    {r : Except Error Fetched} (h : CameBy past id role r) (t : Turn ω) :
    CameBy (t :: past) id role r := by
  cases h with
  | origin role o told plain =>
    exact .origin role o (told.imp fun _ h => ⟨List.mem_cons_of_mem _ h.1, h.2⟩) plain
  | write a r fetched told =>
    exact .write a r (fetched.cons t) (told.imp fun _ h => ⟨List.mem_cons_of_mem _ h.1, h.2⟩)

namespace Scene

variable {ω : Type}

theorem trail_run (keys : KeyScheme) (maxTasks : Nat) (es : List (Moment × Event ω)) :
    Trail (.ofPool keys (.ofLimit maxTasks)) ((start keys maxTasks).run es).past
      ((start keys maxTasks).run es).proxy := by
  refine turn_induction (P := Trail (.ofPool keys (.ofLimit maxTasks))) ?_ .start es
  intro es now e fx p taken trail
  exact .turn ⟨now, e, _, fx, p⟩ _ trail (sane_run keys maxTasks es) taken

theorem cameBy_run (keys : KeyScheme) (maxTasks : Nat) (es : List (Moment × Event ω)) {id : Nat}
    {r : Except Error Fetched}
    (known : ((start keys maxTasks).run es).proxy.fetches.result? id = some r) :
    ∃ w, leader? ((start keys maxTasks).run es).past id = some w ∧
      CameBy ((start keys maxTasks).run es).past id w.role r := by
  refine turn_induction (P := fun past p => p.fetches.result? id = some r →
    ∃ w, leader? past id = some w ∧ CameBy past id w.role r) ?_ ?_ es known
  · intro es now e fx p taken ih known
    have sane := sane_run keys maxTasks es
    have marked := marked_run keys maxTasks es
    have documented := documented_run keys maxTasks es
    generalize (start keys maxTasks).run es = s at *
    have led : ∀ {f w}, s.proxy.fetches.fetches[id]? = some f → leader? s.past id = some w →
        leader? (⟨now, e, s.proxy, fx, p⟩ :: s.past) id = some w := fun hf hw =>
      (leader?_cons (List.getElem?_eq_some_iff.1 hf).1).trans hw
    cases before : s.proxy.fetches.result? id with
    | some r' =>
      obtain rfl : r' = r := Option.some.inj ((taken.result? before).symm.trans known)
      obtain ⟨w, hw, came⟩ := ih before
      obtain ⟨f, hf, -⟩ := Coalescer.result?_eq_some_iff.1 before
      exact ⟨w, led hf hw, came.cons _⟩
    | none =>
      obtain ⟨f, hf, how⟩ := taken.ends sane before known
      obtain ⟨w, hw, role⟩ := marked id f hf
      refine ⟨w, led hf hw, ?_⟩
      rcases how with ⟨o, rfl, rfl, plain⟩ | ⟨a, o, rfl, storing, unguarded, rfl⟩
      · exact .origin _ o ⟨_, List.mem_cons_self, rfl⟩ fun forced => plain (role.2 forced)
      · rw [role.1 unguarded]
        exact .write a o (((documented id f hf).storing a storing).cons _)
          ⟨_, List.mem_cons_self, rfl⟩
  · intro known
    cases known

end Scene

end ReadThrough
