import ReadThrough.Proofs.Proxy.Journeys
import ReadThrough.Proofs.Proxy.Namespaces

/-!
# Answers come from where they claim

An answer says of itself whether it came out of the store. One that says so was read there for
this caller, during its call. One that does not was brought by the fetch that the caller came to,
which is a fetch of its key and was under way when the caller came to it; so nobody is told what
a fetch has brought that was over before the call began (`Aboard.fresh`).

Towards the outside a proxy speaks of two kinds of keys. Origins are asked for keys that callers
have named, and a store is asked only for what is made of such a key. A fetch asks for the key
of the call that leads it, and a write is made for the key of its cause (`causes`), which is again
that of a call; so everything comes down to who has called (`Called`).
-/

set_option autoImplicit false

namespace ReadThrough

variable {ω : Type}

namespace Proxy

variable {now : Moment} {p p' : Proxy ω} {e : Event ω} {fx : List (Effect ω)}

/-! ## Who has called -/

/-- Somebody has called and asked for this. -/
def Called (p : Proxy ω) (r : Request ω) : Prop :=
  ∃ (c : Nat) (x : Caller ω), p.callers[c]? = some x ∧ x.request = r

theorem lasting_called (r : Request ω) : Lasting fun p => p.Called r := by
  rintro p now e fx p' sane step ⟨c, called⟩
  exact ⟨c, lasting_request c r sane step called⟩

theorem Step.called {r : Request ω} (step : p.Step now (.request r) fx p') : p'.Called r := by
  have come : ∀ {q : Proxy ω} {s : Caller.Stage}, (q.addCaller r s).Called r := by
    intro q s
    refine ⟨q.callers.length, ⟨r, s⟩, ?_, rfl⟩
    rw [getElem?_addCaller, if_pos rfl]
  cases step with
  | arrive | force | drain => exact come
  | settle c x e fx s at_ how =>
    cases how with
    | told policy key origin flight r e looks => rcases looks with e | e <;> cases e
  | again c policy key origin flight a e at_ looks => rcases looks with e | e <;> cases e
  | endJob j work e r pool₁ wakes at_ how => cases how

theorem Step.called_of_wish? (step : p.Step now e fx p') {w : Wish ω}
    (wished : p.wish? now e = some w) : p'.Called (.lookup w.policy w.key w.origin) := by
  rcases wish?_cases wished with ⟨-, rfl, -⟩ | ⟨c, o, -, at_, -⟩
  · exact step.called
  · obtain ⟨y, still, same, -⟩ := step.keeps_caller at_
    exact ⟨c, y, still, same⟩

end Proxy

/-! ## The fetch that a caller came to -/

section Aboard

variable {past : List (Turn ω)} {p₀ p : Proxy ω} {c : Nat} {policy : Policy} {key : String}
  {origin : ω} {flight : Flight}

theorem Turn.Boards.alive {t : Turn ω} (b : t.Boards c policy key origin flight)
    (sane : t.after.Sane) : t.after.fetches.IsAlive flight.fetch key :=
  (sane.sound key flight.fetch).1 b.taken

theorem Aboard.fetch (h : Aboard past c policy key origin flight) (trail : Trail p₀ past p) :
    ∃ f, p.fetches.fetches[flight.fetch]? = some f ∧ f.key = key := by
  obtain ⟨u, hu, boards⟩ := h.boards
  obtain ⟨f, hf, hk, -⟩ := boards.alive (trail.sane_after hu)
  obtain ⟨g, hg, key, -⟩ :=
    trail.lasts (Proxy.lasting_fetch _ f.key f.plan) hu ⟨f, hf, rfl, rfl⟩
  exact ⟨g, hg, key.trans hk⟩

/-- A fetch that a caller comes to was not over before the call began. -/
theorem Aboard.fresh (h : Aboard past c policy key origin flight) (trail : Trail p₀ past p)
    {t : Turn ω} (ht : t ∈ past) (yet : t.after.callers.length ≤ c) :
    t.after.fetches.result? flight.fetch = none := by
  obtain ⟨u, hu, boards⟩ := h.boards
  obtain ⟨f, hf, -, alive⟩ := boards.alive (trail.sane_after hu)
  refine Option.eq_none_iff_forall_ne_some.2 fun r known => ?_
  have finished :=
    trail.lasts_between (Proxy.lasting_came c) (Proxy.lasting_result? flight.fetch r) ht hu
      boards.within.come (Nat.not_lt.2 yet) known
  obtain ⟨g, hg, ended⟩ := Coalescer.result?_eq_some_iff.1 finished
  rw [hf] at hg
  cases hg
  rw [ended] at alive
  cases alive

end Aboard

/-! ## Whose keys -/

namespace Scene

theorem native_run (keys : KeyScheme) (maxTasks : Nat) (es : List (Moment × Event ω)) :
    ((start keys maxTasks).run es).proxy.Native :=
  proxy_induction (P := Proxy.Native) (fun _ _ _ _ _ h step => h.step step)
    (Desk.native_start keys maxTasks).proxy es

section Run

variable (keys : KeyScheme) (maxTasks : Nat) (es : List (Moment × Event ω))

/-- Whoever leads a fetch has called for its key. -/
theorem called_of_leader? {id : Nat} {w : Wish ω}
    (led : leader? ((start keys maxTasks).run es).past id = some w) :
    w.key ≠ "" ∧ ((start keys maxTasks).run es).proxy.Called (.lookup w.policy w.key w.origin) := by
  refine turn_induction (P := fun past p => leader? past id = some w →
    w.key ≠ "" ∧ p.Called (.lookup w.policy w.key w.origin)) ?_ (fun led => by cases led) es led
  intro es now e fx p taken ih led
  rw [leader?] at led
  split at led
  · exact ⟨(native_run keys maxTasks es).wished led, taken.called_of_wish? led⟩
  · obtain ⟨some_key, called⟩ := ih led
    exact ⟨some_key, Proxy.lasting_called _ (sane_run keys maxTasks es) taken called⟩

/-- What there is cause to write has been called for: by whoever sets the value, or by a lookup
whose policy and key it has. -/
theorem called_of_cause {c : Cause} (hc : c ∈ causes ((start keys maxTasks).run es).past) :
    c.key ≠ "" ∧
      ((c.way = .set ∧
        ((start keys maxTasks).run es).proxy.Called (.set c.policy c.key c.payload)) ∨
      (c.way ≠ .set ∧
        ∃ origin, ((start keys maxTasks).run es).proxy.Called (.lookup c.policy c.key origin))) := by
  refine turn_induction (P := fun past p => c ∈ causes past → c.key ≠ "" ∧
    ((c.way = .set ∧ p.Called (.set c.policy c.key c.payload)) ∨
      (c.way ≠ .set ∧ ∃ origin, p.Called (.lookup c.policy c.key origin)))) ?_
    (fun hc => by cases hc) es hc
  intro es now e fx p taken ih hc
  have still : ∀ {r}, ((start keys maxTasks).run es).proxy.Called r → p.Called r :=
    fun called => Proxy.lasting_called _ (sane_run keys maxTasks es) taken called
  rcases List.mem_append.1 hc with new | old
  · rcases Proxy.cause?_cases (Option.mem_toList.1 new) with
      ⟨policy, key, payload, rfl, some_key, rfl⟩ | ⟨id, a, w, -, led, rfl⟩ | ⟨i, again⟩
    · exact ⟨some_key, Or.inl ⟨rfl, taken.called⟩⟩
    · obtain ⟨some_key, called⟩ := called_of_leader? keys maxTasks es led
      exact ⟨some_key, Or.inr ⟨nofun, w.origin, still called⟩⟩
    · obtain ⟨policy, key, origin, flight, a, at_, -, rfl⟩ := Proxy.again?_eq_some again
      exact ⟨(native_run keys maxTasks es).callers i policy key origin _ at_ rfl,
        Or.inr ⟨nofun, origin, still ⟨i, _, at_, rfl⟩⟩⟩
  · obtain ⟨some_key, ⟨set, called⟩ | ⟨unset, origin, called⟩⟩ := ih old
    · exact ⟨some_key, Or.inl ⟨set, still called⟩⟩
    · exact ⟨some_key, Or.inr ⟨unset, origin, still called⟩⟩

/-- The store is asked for nothing but what is made of a key that somebody has called with. -/
theorem called_of_storeKey? {t : Turn ω} (ht : t ∈ ((start keys maxTasks).run es).past)
    {x : Effect ω} (hx : x ∈ t.effects) {storeKey : String} (about : x.storeKey? = some storeKey) :
    ∃ key r, key ≠ "" ∧ ((start keys maxTasks).run es).proxy.Called r ∧ r.key? = some key ∧
      storeKey = keys.build key := by
  have trail := trail_run keys maxTasks es
  obtain ⟨now, e, p, fx, p'⟩ := t
  have scheme : p.keys = keys := (trail.throughout (Proxy.lasting_keys keys) rfl).2 _ ht
  have arrival : ∀ {d : Errand}, x.errand? = some d → d.forStore = true →
      (∀ task, d ≠ .write task) → ∃ key r, key ≠ "" ∧
        ((start keys maxTasks).run es).proxy.Called r ∧ r.key? = some key ∧
        storeKey = keys.build key := by
    intro d asked store no_write
    have step : p.Step now e fx p' := (trail.of_mem ht).2
    obtain ⟨y, only, same, orders⟩ := step.orders store (mem_errands.2 ⟨x, hx, asked⟩)
    obtain rfl : x = y := by
      rw [show Turn.effects ⟨now, e, p, fx, p'⟩ = [y] from only] at hx
      exact List.mem_singleton.1 hx
    cases orders with
    | arrive r x s how =>
      have called := trail.lasts (Proxy.lasting_called r) ht step.called
      cases how with
      | read policy key origin some_key | remove key some_key =>
        cases about
        exact ⟨key, _, some_key, called, rfl, by rw [scheme]⟩
      | set =>
        cases same
        exact absurd rfl (no_write _)
    | store | write | save =>
      cases same
      exact absurd rfl (no_write _)
  cases x with
  | wake | ask | limit | log => cases about
  | read c storeKey => exact arrival rfl rfl (by simp)
  | delete c storeKey => exact arrival rfl rfl (by simp)
  | write task key v ttl =>
    cases about
    have begins : (⟨storeKey, v, ttl⟩ : Write) ∈ begun ((start keys maxTasks).run es).past :=
      List.mem_flatMap.2 ⟨_, ht, List.mem_filterMap.2 ⟨_, hx, rfl⟩⟩
    have caused := (accounted_run keys maxTasks es).books.mem_iff.2 (List.mem_append_left _ begins)
    obtain ⟨c, hc, same⟩ := List.mem_map.1 caused
    obtain ⟨some_key, ⟨-, called⟩ | ⟨-, origin, called⟩⟩ := called_of_cause keys maxTasks es hc
    · exact ⟨c.key, _, some_key, called, rfl, (congrArg Write.storeKey same).symm⟩
    · exact ⟨c.key, _, some_key, called, rfl, (congrArg Write.storeKey same).symm⟩

/-- The caller has the payload from this flight, and from nowhere else. -/
structure BroughtBy (s : Scene ω) (c : Nat) (key payload : String) (flight : Flight)
    (supplier : ω) : Prop where
  /-- It is the flight that the caller came to. -/
  came : flight? s.past c = some flight
  /-- The origin was asked for the key on behalf of its fetch, and has answered with the payload. -/
  asked : Asked s.past flight.fetch key supplier
  answered : ∃ a, Answered s.past flight.fetch a ∧ a.payload = payload ∧
    s.proxy.fetches.result? flight.fetch = some (.ok a)
  /-- At a moment of the call the fetch was under way. -/
  underWay : ∃ t ∈ s.past, t.Within c ∧ t.after.fetches.IsAlive flight.fetch key
  /-- The fetch was not over at any moment before the call. -/
  fresh : ∀ t ∈ s.past, t.after.callers.length ≤ c →
    t.after.fetches.result? flight.fetch = none

/-- A caller that came to a flight, of which it is known what its fetch has brought. -/
theorem broughtBy_of_aboard {c : Nat} {policy : Policy} {key : String} {origin : ω}
    {flight : Flight} {a : Fetched}
    (aboard : Aboard ((start keys maxTasks).run es).past c policy key origin flight)
    (known : ∃ t ∈ ((start keys maxTasks).run es).past,
      t.before.fetches.result? flight.fetch = some (.ok a)) :
    ∃ supplier, ((start keys maxTasks).run es).BroughtBy c key a.payload flight supplier := by
  have trail := trail_run keys maxTasks es
  have documented := documented_run keys maxTasks es
  obtain ⟨t, ht, known⟩ := known
  have still := trail.lasts_since (Proxy.lasting_result? flight.fetch (.ok a)) ht known
  obtain ⟨f, hf, ended⟩ := Coalescer.result?_eq_some_iff.1 still
  obtain ⟨g, hg, same⟩ := aboard.fetch trail
  rw [hf] at hg
  cases hg
  have asked := (documented _ f hf).asked (by rw [ended]; simp)
  rw [same] at asked
  obtain ⟨u, hu, boards⟩ := aboard.boards
  exact ⟨_, aboard.flight?, asked, ⟨a, (documented _ f hf).ended a ended, rfl, still⟩,
    ⟨u, hu, boards.within, boards.alive (trail.sane_after hu)⟩,
    fun t ht yet => aboard.fresh trail ht yet⟩

end Run

/-- What answers say of themselves is so, and nobody is asked about anything that no caller has
named. -/
structure Honest (keys : KeyScheme) (s : Scene ω) : Prop where
  /-- Where the answer says that it came out of the store, the store was read for the caller,
  during its call and under the key made of its own, and had an entry with that payload. -/
  stored : ∀ c policy key origin payload, s.proxy.callers[c]? =
      some ⟨.lookup policy key origin, .answered (.ok (.found payload true))⟩ →
    ∃ v, HasRead s.past c (keys.build key) (.ok (some v)) ∧ v.absent = false ∧ v.payload = payload
  /-- Where it does not say so, and the key is not empty, a flight has brought the payload. -/
  fetched : ∀ c policy key origin payload, s.proxy.callers[c]? =
      some ⟨.lookup policy key origin, .answered (.ok (.found payload false))⟩ → key ≠ "" →
    ∃ flight supplier, s.BroughtBy c key payload flight supplier
  /-- Origins are asked for nothing but keys with which lookups have come, and on their behalf. -/
  origins : ∀ t ∈ s.past, ∀ id key supplier, .ask id key supplier ∈ t.effects →
    key ≠ "" ∧ ∃ policy, s.proxy.Called (.lookup policy key supplier)
  /-- The store is asked for nothing but what is made of keys with which somebody has called. -/
  storeKeys : ∀ t ∈ s.past, ∀ x ∈ t.effects, ∀ storeKey, x.storeKey? = some storeKey →
    ∃ key r, key ≠ "" ∧ s.proxy.Called r ∧ r.key? = some key ∧ storeKey = keys.build key

/-- **Answers come from where they claim,** in every state that a run comes to. -/
theorem answers_come_from_their_sources (keys : KeyScheme) (maxTasks : Nat)
    (es : List (Moment × Event ω)) : ((start keys maxTasks).run es).Honest keys where
  stored c policy key origin payload at_ := by
    have how := explained_run keys maxTasks es at_
    generalize hr : Outcome.ok (Answer.found payload true) = r at how
    cases how with
    | hit v gentle live ashore read =>
      cases hr
      exact ⟨v, read, live, rfl⟩
    | blank | gaveUp | crashed => cases hr
    | unread r gentle bad => cases r <;> cases hr
    | told flight r => cases r <;> cases hr
    | saved flight a i r => cases r <;> cases hr
  fetched c policy key origin payload at_ some_key := by
    have how := explained_run keys maxTasks es at_
    generalize hr : Outcome.ok (Answer.found payload false) = r at how
    cases how with
    | told flight r some_key aboard known plain =>
      cases r <;> cases hr
      exact ⟨flight, broughtBy_of_aboard keys maxTasks es aboard known⟩
    | saved flight a i r some_key aboard forced joined known own finished =>
      cases r <;> cases hr
      exact ⟨flight, broughtBy_of_aboard keys maxTasks es aboard known⟩
    | blank blank => exact absurd blank some_key
    | hit | gaveUp | crashed => cases hr
    | unread r gentle bad => cases r <;> cases hr
  origins t ht id key supplier asked := by
    obtain ⟨-, w, led, rfl, rfl⟩ :=
      (accounted_run keys maxTasks es).asked id key supplier ⟨t, ht, asked⟩
    obtain ⟨some_key, called⟩ := called_of_leader? keys maxTasks es led
    exact ⟨some_key, w.policy, called⟩
  storeKeys t ht x hx storeKey := called_of_storeKey? keys maxTasks es ht hx

end Scene

end ReadThrough
