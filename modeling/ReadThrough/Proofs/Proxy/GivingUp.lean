import Mathlib.Data.List.Basic
import ReadThrough.Proofs.Proxy.Desk
import ReadThrough.Proofs.Proxy.NoWriteLost
import ReadThrough.Proofs.Proxy.Without

/-!
# Giving up affects nobody else

A lookup that has come to a flight waits for it and does nothing else: it asks nobody, it writes
nothing, and what its fetch still has to do is the fetch's own. The exception is a forced lookup
that has joined, which is to write for itself. For every other one it makes no difference to the
rest of the world whether it goes on waiting, is told, gives up, or is dropped, nor when
(`giving_up_affects_nobody`).

Two runs are compared that differ in nothing but the moves that concern the caller. They are held
together by `Twin`, which leaves out of both desks what belongs to the caller. A move that concerns
it is not seen (`Twin.skip`), and any other move is the same move on both sides (`Twin.act`).
-/

set_option autoImplicit false

namespace ReadThrough

/-- The caller whom a move concerns. -/
def Move.caller? {ω : Type} : Move ω → Option Nat
  | tell e _ => e.caller?
  | serve r => r.task.caller?

theorem Event.caller?_eq {ω : Type} {e : Event ω} {r : Errand} (run : e.errand? = some r) :
    e.caller? = r.task.caller? := by
  cases e with
  | request | abandoned => cases run
  | resume task | writeAnswered task =>
    cases run
    cases task <;> rfl
  | originAnswered | readAnswered | deleteAnswered | limitPassed | limitCrashed =>
    cases run
    rfl

namespace Proxy

variable {ω : Type} {now : Moment} {p p' : Proxy ω} {c : Nat}

/-- The caller has nothing to do but to wait for its flight, or not even that. -/
def Passive (p : Proxy ω) (c : Nat) : Prop :=
  ∃ x, p.callers[c]? = some x ∧ (x.stage.isSettled = true ∨
    ∃ policy key origin flight, x = ⟨.lookup policy key origin, .waiting flight⟩ ∧
      (policy.force && !flight.leader) = false)

theorem Passive.there (h : p.Passive c) : c < p.callers.length := by
  obtain ⟨x, at_, -⟩ := h
  exact (List.getElem?_eq_some_iff.1 at_).1

theorem Passive.other (h : p.Passive c) {e : Event ω} {fx : List (Effect ω)}
    (step : p.Step now e fx p') (other : e.caller? ≠ some c) : p'.Passive c := by
  obtain ⟨x, at_, rests⟩ := h
  exact ⟨x, step.others at_ other, rests⟩

theorem Passive.settled {s : Caller.Stage} (there : c < p.callers.length)
    (settled : s.isSettled = true) : (p.setStage c s).Passive c := by
  refine ⟨_, callers_setStage s (List.getElem?_eq_getElem there), Or.inl settled⟩

/-- What concerns a passive caller is at most that it is done waiting. -/
theorem Passive.step (h : p.Passive c) {e : Event ω} {fx : List (Effect ω)}
    (step : p.Step now e fx p') (concerned : e.caller? = some c) :
    ∃ s, p' = p.setStage c s ∧ s.isSettled = true ∧ ∀ x ∈ fx, x.errand? = none := by
  obtain ⟨x, at_, rests⟩ := h
  have elsewhere : ∀ {d : Nat} {y : Caller ω} {q : Prop}, some d = some c →
      p.callers[d]? = some y → y.stage.isSettled = false → (∀ flight, y.stage ≠ .waiting flight) → q := by
    intro d y q same here waits apart
    cases same
    rw [at_] at here
    cases here
    rcases rests with settled | ⟨policy, key, origin, flight, rfl, -⟩
    · rw [waits] at settled
      cases settled
    · exact absurd rfl (apart flight)
  cases step with
  | settle d y e fx s here how =>
    have same : d = c := Option.some.inj (how.caller?.symm.trans concerned)
    subst same
    refine ⟨s, rfl, how.settled, ?_⟩
    intro x hx
    cases how with
    | gaveUp =>
      rw [List.mem_singleton.1 hx]
      rfl
    | unread | hit | told | crashed | saved | written | deleted | left => cases hx
  | again d policy key origin flight a e here looks known forced joined =>
    have same : some d = some c := by rcases looks with rfl | rfl <;> exact concerned
    cases same
    rw [at_] at here
    cases here
    rcases rests with settled | ⟨policy, key, origin, flight, e, plain⟩
    · cases settled
    · cases e
      rw [forced, joined] at plain
      cases plain
  | miss d policy key origin o p₁ flight fx here => exact elsewhere concerned here rfl (by simp)
  | stale d policy key origin v p₁ flight fx here => exact elsewhere concerned here rfl (by simp)
  | drained d q w here | parks d q w here | leaveDrain d q w here =>
    exact elsewhere concerned here rfl (by simp)
  | endJob j work e r pool₁ wakes here how finished => cases how <;> cases concerned
  | arrive | force | drain | ask | store | passOn | failThrough | failBack | stored | queue | write
  | await | skip | save | saved => cases concerned


/-- What the store is asked for on behalf of a caller, the caller asks for when it comes. -/
theorem Orders.newcomer {e : Event ω} {x : Effect ω} (orders : p.Orders now e x p') {d : Nat}
    (meant : x.caller? = some d) : d = p.callers.length := by
  cases orders with
  | arrive r x s how =>
    cases how <;> exact (Option.some.inj meant).symm
  | store | write | save => cases meant

/-- A caller that is there is not ordered for. -/
theorem Step.not_for (there : c < p.callers.length) {e : Event ω} {fx : List (Effect ω)}
    (step : p.Step now e fx p') {x : Effect ω} (hx : x ∈ fx) (meant : x.caller? = some c)
    {r : Errand} (asked : x.errand? = some r) : r.forStore = false := by
  cases store : r.forStore with
  | false => rfl
  | true =>
    obtain ⟨y, rfl, -, orders⟩ := step.orders store (mem_errands.2 ⟨x, hx, asked⟩)
    rw [List.mem_singleton.1 hx] at meant
    exact absurd (orders.newcomer meant) (Nat.ne_of_lt there)

end Proxy

theorem filterMap_others {ω α : Type} {c : Nat} {f : Effect ω → Option α} {fx : List (Effect ω)}
    (h : ∀ x ∈ fx, x.caller? = some c → f x = none) :
    (others c fx).filterMap f = fx.filterMap f := by
  rw [others, List.filterMap_filter]
  refine List.filterMap_congr fun x hx => ?_
  by_cases meant : x.caller? = some c
  · simp [meant, h x hx meant]
  · simp [meant]

theorem asks_others {ω : Type} (c : Nat) (fx : List (Effect ω)) :
    (others c fx).filterMap Effect.ask? = fx.filterMap Effect.ask? := by
  refine filterMap_others fun x _ meant => ?_
  cases x with
  | ask => cases meant
  | wake | read | write | delete | limit | log => rfl

theorem Proxy.Step.writesOf_others {ω : Type} {now : Moment} {p p' : Proxy ω} {c : Nat}
    (there : c < p.callers.length) {e : Event ω} {fx : List (Effect ω)}
    (step : p.Step now e fx p') : writesOf (ReadThrough.others c fx) = writesOf fx := by
  refine filterMap_others fun x hx meant => ?_
  cases x with
  | write t storeKey v ttl => exact absurd (step.not_for there hx meant rfl) (by simp [Errand.forStore])
  | wake | ask | read | delete | limit | log => rfl

/-! ## Two desks that differ in what belongs to a caller -/

section Twin

variable {σ ω : Type} {c : Nat} {d d' : Desk ω × σ}

structure Twin (c : Nat) (d d' : Desk ω × σ) : Prop where
  proxy : d.1.proxy.without c = d'.1.proxy.without c
  orders : others c d.1.orders = others c d'.1.orders
  asked : asked d.1.scene.past = asked d'.1.scene.past
  begun : begun d.1.scene.past = begun d'.1.scene.past
  store : d.2 = d'.2

theorem Twin.refl (c : Nat) (d : Desk ω × σ) : Twin c d d := ⟨rfl, rfl, rfl, rfl, rfl⟩

theorem Twin.symm (h : Twin c d d') : Twin c d' d :=
  ⟨h.proxy.symm, h.orders.symm, h.asked.symm, h.begun.symm, h.store.symm⟩

theorem Twin.trans {d'' : Desk ω × σ} (h : Twin c d d') (h' : Twin c d' d'') : Twin c d d'' :=
  ⟨h.proxy.trans h'.proxy, h.orders.trans h'.orders, h.asked.trans h'.asked,
    h.begun.trans h'.begun, h.store.trans h'.store⟩

/-- The caller is passive, and the store owes it nothing. -/
structure Desk.Ready (c : Nat) (d : Desk ω) : Prop where
  passive : d.proxy.Passive c
  quiet : ∀ x ∈ d.orders, x.caller? = some c → ∀ r, x.errand? = some r → r.forStore = false

namespace Desk

variable {k : Keeper σ} {b b' : Desk ω} {now : Moment} {e : Event ω}

theorem others_left_of_eq (concerned : e.caller? = some c) : others c (b.left e) = others c b.orders := by
  unfold left
  cases run : e.errand? with
  | none => rfl
  | some r =>
    refine filter_eraseP_of_neg (fun x hx => ?_) b.orders
    have meant : x.caller? = some c := by
      rw [Effect.caller?, of_decide_eq_true hx, Option.bind_some, ← Event.caller?_eq run, concerned]
    simp [meant]

theorem others_left_of_ne (other : e.caller? ≠ some c) :
    others c (b.left e) = e.errand?.elim (others c b.orders)
      fun r => (others c b.orders).eraseP fun x => x.errand? = some r := by
  unfold left
  cases run : e.errand? with
  | none => rfl
  | some r =>
    refine filter_eraseP_of_pos (fun x hx => ?_) b.orders
    have meant : x.caller? ≠ some c := by
      rw [Effect.caller?, of_decide_eq_true hx, Option.bind_some, ← Event.caller?_eq run]
      exact other
    simp [meant]

theorem Ready.tell (h : b.Ready c) (now : Moment) (e : Event ω) : (b.tell now e).Ready c := by
  rcases b.tell_cases now e with ⟨-, told⟩ | ⟨p, fx, -, taken, told⟩
  · rw [told]
    exact ⟨h.passive, fun x hx => h.quiet x (mem_of_mem_left hx)⟩
  · rw [told]
    refine ⟨?_, ?_⟩
    · by_cases concerned : e.caller? = some c
      · obtain ⟨s, rfl, settled, -⟩ := h.passive.step taken concerned
        exact Proxy.Passive.settled h.passive.there settled
      · exact h.passive.other taken concerned
    · intro x hx meant r asked
      rcases List.mem_append.1 hx with old | new
      · exact h.quiet x (mem_of_mem_left old) meant r asked
      · exact taken.not_for h.passive.there (List.mem_filter.1 new).1 meant asked

/-- What concerns the caller alone is not seen but at the caller. -/
theorem Ready.tell_twin (h : b.Ready c) (now : Moment) (concerned : e.caller? = some c) (s : σ) :
    Twin c (b.tell now e, s) (b, s) := by
  rcases b.tell_cases now e with ⟨-, told⟩ | ⟨p, fx, -, taken, told⟩
  · rw [told]
    exact ⟨rfl, others_left_of_eq concerned, rfl, rfl, rfl⟩
  · obtain ⟨stage, rfl, -, silent⟩ := h.passive.step taken concerned
    have none_asked : fx.filter (fun x => x.errand?.isSome) = [] :=
      List.filter_eq_nil_iff.2 fun x hx => by simp [silent x hx]
    have no_origin : fx.filterMap Effect.ask? = [] := by
      refine List.filterMap_eq_nil_iff.2 fun x hx => ?_
      have nothing := silent x hx
      cases x <;> first | rfl | cases nothing
    have no_write : writesOf fx = [] := by
      refine writesOf_eq_nil fun x hx => ?_
      have nothing := silent x hx
      cases x <;> first | rfl | cases nothing
    rw [told, none_asked, List.append_nil]
    refine ⟨Proxy.without_setStage_self _ _ _, others_left_of_eq concerned, ?_, ?_, rfl⟩
    · rw [ReadThrough.asked, List.flatMap_cons, no_origin, List.nil_append, ReadThrough.asked]
    · rw [ReadThrough.begun, List.flatMap_cons, no_write, List.nil_append, ReadThrough.begun]

/-- What does not concern the caller comes to the same for both. -/
theorem Ready.tell_both {s s' : σ} (h : b.Ready c) (h' : b'.Ready c) (twin : Twin c (b, s) (b', s'))
    (now : Moment) (other : e.caller? ≠ some c) :
    Twin c (b.tell now e, s) (b'.tell now e, s') := by
  have left : others c (b.left e) = others c (b'.left e) := by
    rw [others_left_of_ne other, others_left_of_ne other, twin.orders]
  have hushed : (b.proxy.step now e).map (Proxy.hush c) = (b'.proxy.step now e).map (Proxy.hush c) := by
    rw [← Proxy.step_without h.passive.there other, ← Proxy.step_without h'.passive.there other]
    rw [twin.proxy]
  rcases b.tell_cases now e with ⟨stuck, told⟩ | ⟨p, fx, moves, taken, told⟩
  · rw [stuck] at hushed
    have stuck' : b'.proxy.step now e = none := Option.map_eq_none_iff.1 hushed.symm
    obtain ⟨-, told'⟩ := (b'.tell_cases now e).resolve_right (by simp [stuck'])
    rw [told, told']
    exact ⟨twin.proxy, left, twin.asked, twin.begun, twin.store⟩
  · rw [moves, Option.map_some] at hushed
    obtain ⟨⟨p', fx'⟩, moves', hush⟩ := Option.map_eq_some_iff.1 hushed.symm
    have proxies : p'.without c = p.without c := congrArg Prod.fst hush
    have effects : others c fx' = others c fx := congrArg Prod.snd hush
    obtain ⟨q, gx, moves'', taken', told'⟩ := (b'.tell_cases now e).resolve_left (by simp [moves'])
    rw [moves''] at moves'
    cases moves'
    rw [told, told']
    refine ⟨proxies.symm, ?_, ?_, ?_, twin.store⟩
    · rw [Proxy.others_append, Proxy.others_append, left]
      congr 1
      simp only [others] at effects ⊢
      rw [List.filter_comm, ← effects, List.filter_comm]
    · rw [ReadThrough.asked, ReadThrough.asked, List.flatMap_cons, List.flatMap_cons]
      rw [← asks_others c fx, ← asks_others c fx', effects]
      exact congrArg _ twin.asked
    · rw [ReadThrough.begun, ReadThrough.begun, List.flatMap_cons, List.flatMap_cons]
      rw [← taken.writesOf_others h.passive.there, ← taken'.writesOf_others h'.passive.there, effects]
      exact congrArg _ twin.begun

/-- What is carried out for others is among what is not the caller's. -/
theorem order?_others {r : Errand} (other : r.task.caller? ≠ some c) (b : Desk ω) :
    b.order? r = (others c b.orders).find? fun x => x.errand? = some r := by
  refine (find?_filter_of_pos (fun x hx => ?_) b.orders).symm
  rw [Effect.caller?, of_decide_eq_true hx, Option.bind_some]
  exact decide_eq_true other

/-- For the caller there is nothing to carry out. -/
theorem Ready.unserved (h : b.Ready c) {r : Errand} (concerned : r.task.caller? = some c)
    (s : σ) : (b.order? r).bind (k.carryOut now s) = none := by
  apply Option.eq_none_iff_forall_ne_some.2
  intro es served
  obtain ⟨x, ordered, carried⟩ := Option.bind_eq_some_iff.1 served
  obtain ⟨-, r', asked, store⟩ := Keeper.carryOut_errand? carried
  have stands : x.errand? = some r := by simpa using List.find?_some ordered
  have meant : x.caller? = some c := by rw [Effect.caller?, stands, Option.bind_some, concerned]
  rw [h.quiet x (List.mem_of_find?_eq_some ordered) meant r' asked] at store
  cases store

theorem Ready.act (h : d.1.Ready c) (t : Clocks) (m : Move ω) : (act k d t m).1.Ready c := by
  rcases act_cases k d t m with ⟨e, -, -, acted⟩ | ⟨r, x, e, s, -, -, -, acted⟩ | ⟨r, -, acted⟩
  · rw [acted]
    exact h.tell t.wall e
  · rw [acted]
    exact h.tell t.wall e
  · rw [acted]
    exact h

theorem Ready.act_twin (h : d.1.Ready c) (t : Clocks) {m : Move ω}
    (concerned : m.caller? = some c) : Twin c (Desk.act k d t m) d := by
  cases m with
  | tell e apart => exact h.tell_twin t.wall concerned d.2
  | serve r =>
    simp only [Desk.act, h.unserved concerned]
    exact .refl c d

theorem Ready.act_both (h : d.1.Ready c) (h' : d'.1.Ready c) (twin : Twin c d d') (t : Clocks)
    {m : Move ω} (other : m.caller? ≠ some c) : Twin c (Desk.act k d t m) (Desk.act k d' t m) := by
  cases m with
  | tell e apart => exact h.tell_both h' twin t.wall other
  | serve r =>
    simp only [Desk.act, order?_others other d.1, order?_others other d'.1, twin.orders, ← twin.store]
    cases served : ((others c d'.1.orders).find? fun x => x.errand? = some r).bind
        (k.carryOut t.monotonic d.2) with
    | none => exact twin
    | some es =>
      -- The store reports back to whom it was asked for.
      obtain ⟨x, ordered, carried⟩ := Option.bind_eq_some_iff.1 served
      have stands : x.errand? = some r := by simpa using List.find?_some ordered
      have run : es.1.errand? = some r := (Keeper.carryOut_errand? carried).1.trans stands
      have told : Twin c (d.1.tell t.wall es.1, d.2) (d'.1.tell t.wall es.1, d'.2) :=
        h.tell_both h' twin t.wall (by rw [Event.caller?_eq run]; exact other)
      exact ⟨told.proxy, told.orders, told.asked, told.begun, rfl⟩

/-- Two runs stay together though one of them leaves out what concerns the caller. -/
theorem Ready.run_twin (h : d.1.Ready c) (h' : d'.1.Ready c) (twin : Twin c d d')
    (ms : List (Clocks × Move ω)) :
    Twin c (run k d ms) (run k d' (ms.filter fun m => m.2.caller? ≠ some c)) := by
  induction ms generalizing d d' with
  | nil => exact twin
  | cons m ms ih =>
    by_cases concerned : m.2.caller? = some c
    · rw [List.filter_cons_of_neg (by simpa using concerned)]
      exact ih (h.act m.1 m.2) h' ((h.act_twin m.1 concerned).trans twin)
    · rw [List.filter_cons_of_pos (by simpa using concerned)]
      exact ih (h.act m.1 m.2) (h'.act m.1 m.2) (h.act_both h' twin m.1 concerned)

/-- A caller that waits for a flight, and is not to write for itself, has nothing with the
store. -/
theorem ready_of_waiting (listed : b.Listed) (orderly : b.scene.Orderly) {policy : Policy}
    {key : String} {origin : ω} {flight : Flight}
    (waits : b.scene.proxy.callers[c]? = some ⟨.lookup policy key origin, .waiting flight⟩)
    (plain : (policy.force && !flight.leader) = false) : b.Ready c := by
  refine ⟨⟨_, waits, Or.inr ⟨policy, key, origin, flight, rfl, plain⟩⟩, ?_⟩
  intro x hx meant r asked
  by_contra store
  rw [Bool.not_eq_false] at store
  have due : r ∈ b.scene.due := by
    rw [← listed]
    exact mem_errands.2 ⟨x, hx, asked⟩
  have task : r.task = .caller c := by
    rw [Effect.caller?, asked, Option.bind_some] at meant
    cases at_ : r.task with
    | caller d =>
      rw [at_] at meant
      rw [Option.some.inj meant]
    | fetch | job | save =>
      rw [at_] at meant
      cases meant
  rcases (orderly r store due).2 with needed | ⟨d, task', gone⟩
  · rw [task, Proxy.next?_caller waits] at needed
    exact Proxy.ne_of_wake store needed
  · rw [task] at task'
    cases task'
    obtain ⟨y, here, gone⟩ := Option.map_eq_some_iff.1 gone
    rw [here] at waits
    cases waits
    cases gone

/-- **Giving up affects nobody else.** Take a caller that a run has brought to a flight: after a
miss, or as the leader of a forced lookup. Go on from there in two ways that differ in nothing but
what concerns this caller, and when: it goes on waiting, or its limit passes, or it leaves. Then
the origins are asked for the same, the same writes are begun, all in the same order, and the
store comes out the same; as much is pending and under way, and every other caller has the same
answer. -/
theorem giving_up_affects_nobody (k : Keeper σ) (keys : KeyScheme) (maxTasks : Nat) (store : σ)
    (before : List (Clocks × Move ω)) (policy : Policy) (key : String) (origin : ω)
    (flight : Flight)
    (waits : (run k (start keys maxTasks, store) before).1.proxy.callers[c]? =
      some ⟨.lookup policy key origin, .waiting flight⟩)
    (leads : policy.force = true → flight.leader = true) (one two : List (Clocks × Move ω))
    (alike : (one.filter fun m => m.2.caller? ≠ some c) =
      two.filter fun m => m.2.caller? ≠ some c) :
    let reached := run k (start keys maxTasks, store) before
    let d := run k reached one
    let d' := run k reached two
    asked d.1.scene.past = asked d'.1.scene.past ∧ begun d.1.scene.past = begun d'.1.scene.past ∧
      d.2 = d'.2 ∧ d.1.proxy.pending = d'.1.proxy.pending ∧
      d.1.proxy.underWay = d'.1.proxy.underWay ∧
      ∀ other, other ≠ c → d.1.proxy.result? other = d'.1.proxy.result? other := by
  intro reached d d'
  have plain : (policy.force && !flight.leader) = false := by
    cases forced : policy.force with
    | false => rfl
    | true => simp [leads forced]
  have ready : reached.1.Ready c := by
    obtain ⟨es, ran⟩ := exists_scene_run k (start keys maxTasks, store) before
    have listed : reached.1.Listed :=
      listed_run k (d := ((start keys maxTasks : Desk ω), store)) rfl before
    refine ready_of_waiting listed ?_ waits plain
    rw [ran]
    exact Scene.orderly_run keys maxTasks es
  have twin : Twin c d d' := by
    have first : Twin c d _ := ready.run_twin ready (.refl c reached) one
    have second : Twin c d' _ := ready.run_twin ready (.refl c reached) two
    rw [alike] at first
    exact first.trans second.symm
  refine ⟨twin.asked, twin.begun, twin.store, ?_, ?_, ?_⟩
  · rw [← Proxy.pending_without d.1.proxy c, twin.proxy, Proxy.pending_without]
  · rw [← Proxy.underWay_without d.1.proxy c, twin.proxy, Proxy.underWay_without]
  · intro other ne
    have stages : d.1.proxy.stage? other = d'.1.proxy.stage? other := by
      rw [← Proxy.stage?_without ne, twin.proxy, Proxy.stage?_without ne]
    rw [Proxy.result?, Proxy.result?, stages]

/-- A lookup with nobody beside it finds nothing in the store. -/
def loneMiss : List (Clocks × Move Unit) :=
  [(⟨.epoch, .epoch⟩, .tell (.request (.lookup .default "k" ())) rfl),
    (⟨.epoch, .epoch⟩, .serve (.read 0))]

/-- The rest of its fetch, up to the write. -/
def fetchAlone : List (Clocks × Move Unit) :=
  [(⟨.epoch, .epoch⟩, .tell (.resume (.fetch 0)) rfl),
    (⟨.epoch, .epoch⟩, .tell (.originAnswered 0 (.ok (.steady "v"))) rfl),
    (⟨.epoch, .epoch⟩, .tell (.resume (.job 0)) rfl),
    (⟨.epoch, .epoch⟩, .serve (.write (.job 0)))]

theorem giving_up_affects_nobody_loneMiss :
    let reached := run ByteMap.keeper (start ⟨none⟩ 1, Table.empty) loneMiss
    let left : Clocks × Move Unit := (⟨.epoch, .epoch⟩, .tell (.abandoned 0) rfl)
    (run ByteMap.keeper reached (left :: fetchAlone)).2 =
      (run ByteMap.keeper reached fetchAlone).2 := by
  intro reached left
  have waits : reached.1.proxy.callers[0]? =
      some ⟨.lookup .default "k" (), .waiting ⟨0, true⟩⟩ := by rfl
  have same := giving_up_affects_nobody ByteMap.keeper ⟨none⟩ 1 Table.empty loneMiss .default "k" ()
    ⟨0, true⟩ waits (fun _ => rfl) (left :: fetchAlone) fetchAlone rfl
  exact same.2.2.1

end Desk

end Twin

end ReadThrough
