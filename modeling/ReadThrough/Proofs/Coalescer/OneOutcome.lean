import ReadThrough.Proofs.Coalescer.Holders
import ReadThrough.Proofs.Coalescer.Story

/-!
# One outcome per fetch

The second promise of a coalescer, for every run of it: all who hold a flight of one fetch get
the same, and it is what the story of that fetch says (`one_outcome`). The origin of the leader
is called once, the leader's plan is followed once if the origin answered and never otherwise,
and nothing that a joiner brought along is ever used.

None of this asks who still waits. Looking and leaving touch neither a fetch nor what is done
for it (`act_poll`, `act_drop`), and a fetch needs nobody but its origin and its plan to come to
its end (`ends_alone`).
-/

set_option autoImplicit false

namespace ReadThrough

def Deed.plan? {σ : Type} : Deed σ → Option (Brought σ)
  | asked _ _ plan | followed _ plan _ => some plan
  | _ => none

/-- The deed calls the origin that this call brought along. -/
def Deed.asks {σ : Type} (call : Nat) : Deed σ → Bool
  | asked _ _ plan => plan.call == call
  | _ => false

/-- The deed begins what this call wants done with an answer. -/
def Deed.follows {σ : Type} (call : Nat) : Deed σ → Bool
  | followed _ plan _ => plan.call == call
  | _ => false

namespace Traffic

variable {σ : Type} {t : Traffic σ}

/-! ## Whose plans are followed -/

theorem Told.plan {id : Nat} {key : String} {plan : Brought σ} {stage : Fetch.Stage}
    {story : List (Deed σ)} (told : Told id key plan stage story) {d : Deed σ} (hd : d ∈ story)
    {p : Brought σ} (hp : d.plan? = some p) : p = plan := by
  cases told <;> simp only [List.not_mem_nil, List.mem_cons, or_false] at hd
  all_goals rcases hd with rfl | rfl | rfl | rfl <;> simp_all [Deed.plan?]

/-- Whatever is done, is done for the fetch that the bringer of the plan leads. -/
theorem leads_of_plan (m : t.Manned) (c : t.Chronicled) {d : Deed σ} (hd : d ∈ t.deeds)
    {p : Brought σ} (hp : d.plan? = some p) :
    ∃ h, t.holders[p.call]? = some h ∧ h.flight = ⟨d.fetch, true⟩ := by
  have mem : d ∈ t.story d.fetch := by simp [story, hd]
  cases hf : t.coalescer.fetches[d.fetch]? with
  | none =>
    rw [c.blank d.fetch (List.getElem?_eq_none_iff.1 hf)] at mem
    cases mem
  | some f =>
    rw [(c.told d.fetch f hf).plan mem hp]
    exact m.led d.fetch f hf

theorem plan?_of_asks {call : Nat} {d : Deed σ} (h : d.asks call = true) :
    ∃ p, d.plan? = some p ∧ p.call = call := by
  cases d with
  | asked id key plan => exact ⟨plan, rfl, by simpa [Deed.asks] using h⟩
  | answered | followed | concluded => cases h

theorem plan?_of_follows {call : Nat} {d : Deed σ} (h : d.follows call = true) :
    ∃ p, d.plan? = some p ∧ p.call = call := by
  cases d with
  | followed id plan a => exact ⟨plan, rfl, by simpa [Deed.follows] using h⟩
  | asked | answered | concluded => cases h

/-- How often the origin that a call brought along has been called. -/
def timesAsked (t : Traffic σ) (call : Nat) : Nat := t.deeds.countP (·.asks call)

/-- How often what a call wants done with an answer has been begun. -/
def timesFollowed (t : Traffic σ) (call : Nat) : Nat := t.deeds.countP (·.follows call)

/-- What hangs on the plan of a leader is done in the story of its fetch, and nowhere else. -/
theorem countP_deeds (m : t.Manned) (c : t.Chronicled) {call : Nat} {h : Holder σ}
    (hh : t.holders[call]? = some h) (p : Deed σ → Bool)
    (hp : ∀ d, p d = true → ∃ plan, d.plan? = some plan ∧ plan.call = call) :
    t.deeds.countP p = (t.story h.flight.fetch).countP p := by
  rw [story, List.countP_filter]
  apply List.countP_congr
  intro d hd
  simp only [Bool.and_eq_true, beq_iff_eq]
  constructor
  · intro hpd
    obtain ⟨plan, hplan, rfl⟩ := hp d hpd
    obtain ⟨g, hg, flight⟩ := leads_of_plan m c hd hplan
    rw [hh] at hg
    cases hg
    exact ⟨hpd, by rw [flight]⟩
  · exact fun h => h.1

theorem countP_deeds_joiner (m : t.Manned) (c : t.Chronicled) {call : Nat} {h : Holder σ}
    (hh : t.holders[call]? = some h) (joins : h.flight.leader = false) (p : Deed σ → Bool)
    (hp : ∀ d, p d = true → ∃ plan, d.plan? = some plan ∧ plan.call = call) :
    t.deeds.countP p = 0 := by
  apply List.countP_eq_zero.2
  intro d hd hpd
  obtain ⟨plan, hplan, rfl⟩ := hp d hpd
  obtain ⟨g, hg, flight⟩ := leads_of_plan m c hd hplan
  rw [hh] at hg
  cases hg
  rw [flight] at joins
  cases joins

/-- What is done with the plan of the call, by how far its fetch has come: the origin has been
called once unless the fetch is still queued, and the plan is followed once if the origin has
answered. -/
def Served (t : Traffic σ) (call : Nat) (f : Fetch (Brought σ)) (id : Nat) : Prop :=
  t.timesAsked call = (match f.stage with | .queued => 0 | _ => 1) ∧
  ((∃ a, .answered id (.ok a) ∈ t.story id) → t.timesFollowed call = 1) ∧
  ((∀ a, .answered id (.ok a) ∉ t.story id) → t.timesFollowed call = 0)

theorem served_leader (m : t.Manned) (c : t.Chronicled) {call : Nat} {h : Holder σ}
    {f : Fetch (Brought σ)} (hh : t.holders[call]? = some h)
    (hf : t.coalescer.fetches[h.flight.fetch]? = some f) (plan : f.plan = ⟨call, h.brought⟩) :
    t.Served call f h.flight.fetch := by
  have told := c.told _ f hf
  unfold Served timesAsked timesFollowed
  rw [countP_deeds m c hh _ fun d => plan?_of_asks, countP_deeds m c hh _ fun d => plan?_of_follows]
  rw [plan] at told
  generalize t.story h.flight.fetch = story at told ⊢
  generalize f.stage = stage at told ⊢
  cases told <;> simp [Deed.asks, Deed.follows]

/-! ## A fetch needs none of its holders -/

theorem act_poll (t : Traffic σ) (i : Nat) :
    (t.act (.poll i)).coalescer = t.coalescer ∧ (t.act (.poll i)).deeds = t.deeds := by
  simp only [act]
  split
  · split <;> exact ⟨rfl, rfl⟩
  · exact ⟨rfl, rfl⟩

theorem act_poll_of_over {i : Nat} {h : Holder σ} {r : Except Error Fetched}
    (hi : t.holders[i]? = some h) (waits : h.stage = .waiting)
    (known : t.coalescer.result? h.flight.fetch = some r) :
    (t.act (.poll i)).holders[i]? = some { h with stage := .received r } := by
  obtain ⟨key, brought, flight, stage⟩ := h
  simp only at waits known
  subst waits
  have hlt := (List.getElem?_eq_some_iff.1 hi).1
  simp only [act, hi, known]
  simp [hlt]

theorem act_drop (t : Traffic σ) (i : Nat) :
    (t.act (.drop i)).coalescer = t.coalescer ∧ (t.act (.drop i)).deeds = t.deeds := by
  simp only [act]
  split <;> exact ⟨rfl, rfl⟩

theorem act_begin {id : Nat} {f : Fetch (Brought σ)}
    (hf : t.coalescer.fetches[id]? = some f) (hs : f.stage = .queued) :
    (t.act (.begin id)).coalescer = t.coalescer.setStage id .asking := by
  have ask : t.coalescer.ask? id = some (f, t.coalescer.setStage id .asking) :=
    Coalescer.ask?_eq_some_iff.2 ⟨hf, hs, rfl⟩
  simp only [act, ask]

theorem act_answer {id : Nat} {f : Fetch (Brought σ)} (r : Outcome Fetched)
    (hf : t.coalescer.fetches[id]? = some f) (hs : f.stage = .asking) :
    (t.act (.answer id r)).coalescer = t.coalescer.received f.key id r := by
  have receive : t.coalescer.receive? id r = some (f, t.coalescer.received f.key id r) :=
    Coalescer.receive?_eq_some_iff.2 ⟨hf, hs, rfl⟩
  simp only [act, receive]

theorem act_conclude {id : Nat} {f : Fetch (Brought σ)} {a : Fetched} (r : Outcome Unit)
    (hf : t.coalescer.fetches[id]? = some f) (hs : f.stage = .storing a) :
    (t.act (.conclude id r)).coalescer =
      t.coalescer.finish f.key id (Coalescer.concluded a r) := by
  have conclude : t.coalescer.conclude? id r =
      some (t.coalescer.finish f.key id (Coalescer.concluded a r)) :=
    Coalescer.conclude?_eq_some_iff.2 ⟨f, a, hf, hs, rfl⟩
  simp only [act, conclude]

theorem act_begin_of_ne {id : Nat} {f : Fetch (Brought σ)}
    (hf : t.coalescer.fetches[id]? = some f) (hs : f.stage ≠ .queued) :
    t.act (.begin id) = t := by
  have none_due : t.coalescer.ask? id = none := by
    refine Option.eq_none_iff_forall_ne_some.2 ?_
    rintro ⟨g, c⟩ h
    obtain ⟨hg, queued, -⟩ := Coalescer.ask?_eq_some_iff.1 h
    rw [hf] at hg
    cases hg
    exact hs queued
  simp only [act, none_due]

theorem act_answer_of_ne {id : Nat} {f : Fetch (Brought σ)} (r : Outcome Fetched)
    (hf : t.coalescer.fetches[id]? = some f) (hs : f.stage ≠ .asking) :
    t.act (.answer id r) = t := by
  have none_due : t.coalescer.receive? id r = none := by
    refine Option.eq_none_iff_forall_ne_some.2 ?_
    rintro ⟨g, c⟩ h
    obtain ⟨hg, asking, -⟩ := Coalescer.receive?_eq_some_iff.1 h
    rw [hf] at hg
    cases hg
    exact hs asking
  simp only [act, none_due]

theorem result?_of_storing {id : Nat} {f : Fetch (Brought σ)} {a : Fetched} (r : Outcome Unit)
    (hf : t.coalescer.fetches[id]? = some f) (hs : f.stage = .storing a) :
    ∃ result, (t.act (.conclude id r)).coalescer.result? id = some result := by
  refine ⟨Coalescer.concluded a r, Coalescer.result?_eq_some_iff.2
    ⟨{ f with stage := .ended (Coalescer.concluded a r) }, ?_, rfl⟩⟩
  rw [act_conclude r hf hs, Coalescer.getElem?_finish, hf]
  simp

theorem result?_of_asking {id : Nat} {f : Fetch (Brought σ)} (a : Outcome Fetched)
    (r : Outcome Unit) (hf : t.coalescer.fetches[id]? = some f) (hs : f.stage = .asking) :
    ∃ result, ((t.act (.answer id a)).act (.conclude id r)).coalescer.result? id =
      some result := by
  have ended : ∀ result, (t.act (.answer id a)).coalescer =
      t.coalescer.finish f.key id result →
      (t.act (.answer id a)).coalescer.result? id = some result := by
    intro result he
    refine Coalescer.result?_eq_some_iff.2 ⟨{ f with stage := .ended result }, ?_, rfl⟩
    rw [he, Coalescer.getElem?_finish, hf]
    simp
  cases a with
  | ok a =>
    refine result?_of_storing (f := { f with stage := .storing a }) r ?_ rfl
    rw [act_answer _ hf hs, Coalescer.received, Coalescer.getElem?_setStage, hf]
    simp
  | failed e => exact ⟨_, (act_step _ _).result? (ended _ (act_answer _ hf hs))⟩
  | crashed text => exact ⟨_, (act_step _ _).result? (ended _ (act_answer _ hf hs))⟩

/-- However far a fetch has come, its own turn, its origin's answer and the end of its plan bring
it to its end, whatever they are and whoever has left. -/
theorem ends_alone {id : Nat} (hid : id < t.coalescer.fetches.length) (a : Outcome Fetched)
    (r : Outcome Unit) :
    ∃ result, (t.run [.begin id, .answer id a, .conclude id r]).coalescer.result? id =
      some result := by
  obtain ⟨f, hf⟩ : ∃ f, t.coalescer.fetches[id]? = some f := ⟨_, List.getElem?_eq_getElem hid⟩
  show ∃ result, (((t.act (.begin id)).act (.answer id a)).act
    (.conclude id r)).coalescer.result? id = some result
  cases hs : f.stage with
  | queued =>
    refine result?_of_asking (f := { f with stage := .asking }) a r ?_ rfl
    rw [act_begin hf hs, Coalescer.getElem?_setStage, hf]
    simp
  | asking =>
    rw [act_begin_of_ne hf (by rw [hs]; simp)]
    exact result?_of_asking a r hf hs
  | storing b =>
    rw [act_begin_of_ne hf (by rw [hs]; simp), act_answer_of_ne a hf (by rw [hs]; simp)]
    exact result?_of_storing r hf hs
  | ended result =>
    have known : t.coalescer.result? id = some result :=
      Coalescer.result?_eq_some_iff.2 ⟨f, hf, hs⟩
    exact ⟨result, (act_step _ _).result? ((act_step _ _).result? ((act_step _ _).result? known))⟩

/-- **A fetch has one outcome.** In every state that a run can come to, and for every call: the
flight it was handed is of a fetch of its key, started by exactly one call, whose plan the fetch
follows; that fetch has one of the stories of `Told`; and what the call received, if it received
something, is what that story ends with. So two calls that hold flights of one fetch never
receive different things, and each receives the result when it next looks. The origin of a
leader is called once and its plan is followed once if the origin answered (`Served`), and what a
joiner brought is never used. No fetch waits for a holder: looking and leaving change nothing
about it, and its own three events bring it to its end. -/
theorem one_outcome (es : List (Event σ)) :
    let t := (empty : Traffic σ).run es
    (∀ (call : Nat) (h : Holder σ), t.holders[call]? = some h →
      ∃ f, t.coalescer.fetches[h.flight.fetch]? = some f ∧ f.key = h.key ∧
        (∃ leader, t.holders[f.plan.call]? = some leader ∧
          leader.flight = ⟨h.flight.fetch, true⟩ ∧ f.plan.plan = leader.brought) ∧
        (∀ (j : Nat) (g : Holder σ), t.holders[j]? = some g →
          g.flight = ⟨h.flight.fetch, true⟩ → j = f.plan.call) ∧
        Told h.flight.fetch f.key f.plan f.stage (t.story h.flight.fetch) ∧
        (∀ r, h.stage = .received r → f.stage = .ended r) ∧
        (h.flight.leader = true → t.Served call f h.flight.fetch) ∧
        (h.flight.leader = false → t.timesAsked call = 0 ∧ t.timesFollowed call = 0)) ∧
    (∀ (i j : Nat) (g h : Holder σ) (r r' : Except Error Fetched),
      t.holders[i]? = some g → t.holders[j]? = some h → g.flight.fetch = h.flight.fetch →
      g.stage = .received r → h.stage = .received r' → r = r') ∧
    (∀ (i : Nat) (h : Holder σ) (r : Except Error Fetched), t.holders[i]? = some h →
      h.stage = .waiting → t.coalescer.result? h.flight.fetch = some r →
      (t.act (.poll i)).holders[i]? = some { h with stage := .received r }) ∧
    (∀ i, (t.act (.poll i)).coalescer = t.coalescer ∧ (t.act (.poll i)).deeds = t.deeds) ∧
    (∀ i, (t.act (.drop i)).coalescer = t.coalescer ∧ (t.act (.drop i)).deeds = t.deeds) ∧
    (∀ id a r, id < t.coalescer.fetches.length →
      ∃ result, (t.run [.begin id, .answer id a, .conclude id r]).coalescer.result? id =
        some result) := by
  intro t
  have m : t.Manned := manned_run es
  have c : t.Chronicled := chronicled_run es
  refine ⟨?_, ?_, fun i h r => act_poll_of_over, act_poll t, act_drop t,
    fun id a r hid => ends_alone hid a r⟩
  · intro call h hh
    obtain ⟨⟨f, hf, key, leads, -⟩, received⟩ := m.boarded call h hh
    obtain ⟨leader, hl, flight⟩ := m.led _ f hf
    refine ⟨f, hf, key, ⟨leader, hl, flight, ?_⟩, ?_, c.told _ f hf, ?_, ?_, ?_⟩
    · obtain ⟨⟨g, hg, -, plan, -⟩, -⟩ := m.boarded _ leader hl
      rw [flight, hf] at hg
      cases hg
      rw [plan (by rw [flight])]
    · intro j g hj hflight
      obtain ⟨⟨f', hf', -, plan, -⟩, -⟩ := m.boarded j g hj
      rw [hflight, hf] at hf'
      cases hf'
      rw [plan (by rw [hflight])]
    · intro r hr
      obtain ⟨f', hf', known⟩ := Coalescer.result?_eq_some_iff.1 (received r hr)
      rw [hf] at hf'
      cases hf'
      exact known
    · exact fun hlead => served_leader m c hh hf (leads hlead)
    · exact fun joins => ⟨countP_deeds_joiner m c hh joins _ fun d => plan?_of_asks,
        countP_deeds_joiner m c hh joins _ fun d => plan?_of_follows⟩
  · intro i j g h r r' hi hj same hr hr'
    have known := (m.boarded i g hi).received r hr
    have known' := (m.boarded j h hj).received r' hr'
    rw [same, known'] at known
    exact (Option.some.inj known).symm

end Traffic

end ReadThrough
