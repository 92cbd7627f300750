import ReadThrough.Proofs.Proxy.OneCall

/-!
# The proxy as a plain cache

If each call waits until the one before it has returned and the pool has been drained, a proxy over
the store in memory cannot be told from a plain cache: it gives the same answers, asks its origins
for the same keys, and shows the same entries whenever nothing is pending
(`sequential_refinement`). And every call returns, and so does every drain, in whatever order what
is ordered is carried out.

A call goes from its request to its answer, and from the request of a drain to the return of the
drain (`Course`). All along it stands somewhere (`Proxy.Stands`) from where it comes to what the
plain cache comes to (`Heads`); when the drain returns nothing is needed any more, and the desk is
as it has to be for the next call (`Resting`).
-/

set_option autoImplicit false

namespace ReadThrough

open Relation (ReflTransGen)

/-- The order is one that the store can carry out. -/
def Effect.Servable {ω : Type} : Effect ω → Prop
  | read _ storeKey | delete _ storeKey => storeKey ≠ ""
  | write _ storeKey v ttl => Write.Sound ⟨storeKey, v, ttl⟩
  | wake _ | ask _ _ _ | limit _ _ | log _ => False

namespace Proxy

variable {now : Clocks} {p : Proxy Supplier} {n : Nat} {u : List (Effect Supplier)} {s : Shelf}
  {o : Outlook}

/-- When the one who was still without an answer has got it, everybody has one. -/
theorem answered_of_rest {m : Nat} {a : Outcome Answer}
    (rest : ∀ (c : Nat) (x : Caller Supplier), p.callers[c]? = some x → c ≠ m →
      ∃ r, x.stage = .answered r)
    (known : p.result? m = some a) (c : Nat) (x : Caller Supplier) (at_ : p.callers[c]? = some x) :
    ∃ r, x.stage = .answered r := by
  by_cases last : c = m
  · subst last
    obtain ⟨y, here, answered⟩ := result?_eq_some_iff.1 known
    obtain rfl : x = y := Option.some.inj (at_.symm.trans here)
    exact ⟨a, answered⟩
  · exact rest c x at_ last

/-- The store is asked for one thing at a time. -/
theorem Stands.servable (h : p.Stands now n u s o) {x : Effect Supplier} (due : x ∈ u) :
    u = [x] ∧ x.Servable := by
  cases h with
  | reading policy key origin at_ quiet rests orders some_key =>
    subst orders
    cases List.mem_singleton.1 due
    exact ⟨rfl, some_key⟩
  | setting q w at_ quiet rests orders sound =>
    subst orders
    cases List.mem_singleton.1 due
    exact ⟨rfl, sound⟩
  | deleting q storeKey at_ quiet rests orders some_key =>
    subst orders
    cases List.mem_singleton.1 due
    exact ⟨rfl, some_key⟩
  | flying id f a h =>
    have orders := h.orders
    have fits := h.fits
    unfold Fetch.orders at orders
    split at orders
    case h_1 a storing =>
      subst orders
      cases List.mem_singleton.1 due
      exact ⟨rfl, h.some_key, fits a storing⟩
    all_goals
      subst orders
      cases due
  | closing w? a quiet ahead sound gets =>
    cases ahead with
    | nothing | waits => cases due
    | begun j w rests =>
      cases List.mem_singleton.1 due
      exact ⟨rfl, sound w rfl⟩

/-- The store in memory answers an order as the shelf does that it shows. -/
theorem Brings.of_carryOut {m m' : ByteMap} {x : Effect Supplier} {e : Event Supplier}
    (only : u = [x]) (servable : x.Servable)
    (carried : ByteMap.keeper.carryOut now.monotonic m x = some (e, m')) :
    p.Brings now u (.ofBytes m) e [] (.ofBytes m') := by
  cases x with
  | read c storeKey =>
    cases carried
    have seen : ∀ x : Option (Timed (Outcome Value)),
        x.elim (Outcome.ok none) (fun e => e.content.map some) =
          (x.map Timed.content).elim (.ok none) (·.map some) := by
      intro x
      cases x <;> rfl
    rw [ByteMap.read_keeper m now.monotonic servable, seen]
    exact .read c storeKey _ only (ByteMap.agree_read m now.monotonic servable)
  | write t storeKey v ttl =>
    cases carried
    obtain ⟨answer, shelf⟩ := ByteMap.write_keeper m now.monotonic servable.1 servable.2 ttl
    rw [answer, shelf]
    exact .write t ⟨storeKey, v, ttl⟩ only
  | delete c storeKey =>
    cases carried
    obtain ⟨answer, shelf⟩ := ByteMap.delete_keeper m now.monotonic servable
    rw [answer, shelf]
    exact .delete c storeKey only
  | wake | ask | limit | log => cases carried

/-- When everybody has an answer and nothing is pending, nothing is needed. -/
theorem Stands.idle (h : p.Stands now n u s o) (sane : p.Sane) (idle : p.pending = 0)
    (all : ∀ (c : Nat) (x : Caller Supplier), p.callers[c]? = some x →
      ∃ r, x.stage = .answered r) (saves : p.saves = []) : p.Idle := by
  intro t
  cases t with
  | caller c =>
    cases at_ : p.callers[c]? with
    | none => simp [next?, at_]
    | some x =>
      obtain ⟨r, answered⟩ := all c x at_
      rw [next?_caller at_, answered]
      rfl
  | fetch id =>
    cases at_ : p.fetches.fetches[id]? with
    | none => simp [next?, at_]
    | some f =>
      rw [next?_fetch at_]
      cases stage : f.stage with
      | ended r => rfl
      | queued | asking | storing =>
        -- A fetch that is under way has a guard, or somebody who waits for it.
        have alive : f.stage.isAlive = true := by rw [stage]; rfl
        obtain ⟨a, flying, -⟩ := h.of_isAlive at_ alive
        obtain ⟨x, here, -⟩ := h.caller
        obtain ⟨r, answered⟩ := all n x here
        refine absurd ?_ (flying.awaited (sane.unguarded_of_idle idle at_ alive) r)
        rw [result?, stage?, here, Option.map_some, answered]
  | job j =>
    cases at_ : p.pool.jobs[j]? with
    | none => simp [next?, at_]
    | some x =>
      obtain ⟨work, stage⟩ := x
      have ended : stage = .ended := sane.ended_of_idle idle at_
      subst ended
      rw [next?_job at_]
      cases work <;> rfl
  | save i => simp [next?, saves]

theorem Idle.queued (h : p.Idle) (sane : p.Sane) (saves : p.saves = []) : p.queued = [] := by
  have backlog : p.pool.backlog = [] := by
    refine List.filterMap_eq_nil_iff.2 fun x hx => ?_
    obtain ⟨j, at_⟩ := List.getElem?_of_mem hx
    simp [Job.write?, h.ended sane at_, Job.Stage.waits]
  rw [Proxy.queued, backlog, saves]
  rfl

theorem Idle.quiet (h : p.Idle) : p.Quiet := by
  rintro i key ⟨f, at_, -, alive⟩
  obtain ⟨r, ended⟩ := h.fetch at_
  rw [ended] at alive
  cases alive

/-- When nothing is needed any more, nothing is left to be done. -/
theorem Stands.of_idle (h : p.Stands now n [] s o) (idle : p.Idle) (sane : p.Sane)
    (saves : p.saves = []) : o.asked = [] ∧ o.shelf = s := by
  cases h with
  | reading policy key origin at_ quiet rests orders => cases orders
  | setting q w at_ quiet rests orders => cases orders
  | deleting q storeKey at_ quiet rests orders => cases orders
  | flying id f a h => exact absurd ⟨f, h.at_, rfl, h.alive⟩ (idle.quiet id f.key)
  | closing w? a quiet ahead sound gets =>
    cases ahead with
    | nothing rests => exact ⟨rfl, rfl⟩
    | waits w queued =>
      rw [idle.queued sane saves] at queued
      cases queued

/-- The answer that the caller has is the one that it was to get. -/
theorem Stands.answer_eq (h : p.Stands now n u s o) {a : Outcome Answer}
    (known : p.result? n = some a) : o.answer = a := by
  obtain ⟨x, at_, answered⟩ := result?_eq_some_iff.1 known
  have gets : ∀ {known b}, Gets p.callers[n]? known b → b = a := by
    rintro known b (⟨policy, key, origin, id, r, here, -⟩ | ⟨q, b, here⟩) <;>
    · rw [at_] at here
      cases here
      cases answered
      first | rfl | skip
  cases h with
  | reading policy key origin here | setting q w here | deleting q storeKey here =>
    rw [at_] at here
    cases here
    cases answered
  | flying id f b h => exact gets h.gets
  | closing w? b quiet ahead sound h => exact gets h

/-- A drain comes, and nothing else changes but who waits with the pool. -/
theorem Step.of_drain {ω : Type} {p p' : Proxy ω} {now : Moment} {fx : List (Effect ω)}
    (step : p.Step now (.request .drain) fx p') :
    fx = [] ∧ p'.fetches = p.fetches ∧ p'.queued = p.queued ∧ p'.saves = p.saves ∧
      ∃ s, p'.callers = p.callers ++ [⟨.drain, s⟩] := by
  cases step with
  | drain => exact ⟨rfl, rfl, rfl, rfl, _, rfl⟩
  | arrive r fx s how =>
    cases how with
    | vacuous r a blank => cases blank
  | settle c x e fx s at_ how => cases how.caller?
  | again c policy key origin flight a e at_ looks => rcases looks with e | e <;> cases e
  | endJob j work e r pool₁ wakes at_ how => cases how

/-- A call that comes when nothing is under way stands where the plain cache says. -/
theorem stands_request (now : Clocks) (s : Shelf) (sane : p.Sane) (quiet : p.Quiet)
    (rests : p.queued = []) (call : Call) :
    (p.request now.wall call.request).1.Stands now p.callers.length
      (storeOrders (p.request now.wall call.request).2) s (Plain.call p.keys now s call) := by
  have answered : ∀ {r : Request Supplier} {a : Outcome Answer},
      (p.addCaller r (.answered a)).Stands now p.callers.length [] s ⟨a, [], s⟩ := fun {r a} =>
    .of_answered quiet rests (.answered r a ((getElem?_addCaller ..).trans (if_pos rfl)))
  cases call with
  | lookup policy key origin patient =>
    simp only [Call.request, request, Plain.call]
    by_cases blank : key = ""
    · subst blank
      exact answered
    · rw [if_neg blank, if_neg (by simpa [String.isEmpty_iff] using blank)]
      have some_key := p.keys.build_ne_empty blank
      cases forced : policy.force with
      | true =>
        have how := p.joinThrough_boards policy key origin
        have here : ((p.joinThrough policy key origin).1.addCaller (.lookup policy key origin)
            (.waiting (p.joinThrough policy key origin).2.1)).callers[p.callers.length]? =
            some ⟨.lookup policy key origin, .waiting ⟨p.fetches.fetches.length, true⟩⟩ := by
          rw [getElem?_addCaller, how.callers, if_pos rfl, how.leads sane quiet]
        have unordered : storeOrders ((p.joinThrough policy key origin).2.2 ++
            limitOf p.callers.length policy) = [] := by
          rw [limitOf, patient, List.append_nil]
          exact storeOrders_eq_nil fun x => how.wakes
        simp only [if_true, unordered]
        exact how.flying (q := (p.joinThrough policy key origin).1.addCaller _ _) (x := now)
          (t := s) sane quiet rests some_key rfl rfl
          (.waits policy key origin _ _ here (if_pos rfl))
          fun _ r => by simp [result?, stage?, here]
      | false =>
        exact .reading policy key origin ((getElem?_addCaller ..).trans (if_pos rfl)) quiet rests
          rfl some_key
  | set policy key payload fits =>
    simp only [Call.request, request, Plain.call]
    by_cases blank : key = ""
    · subst blank
      exact answered
    · rw [if_neg blank, if_neg (by simpa [String.isEmpty_iff] using blank)]
      exact .setting _ ⟨p.keys.build key, .stamped now.wall payload false, policy.ttlFor payload⟩
        ((getElem?_addCaller ..).trans (if_pos rfl)) quiet rests rfl
        ⟨p.keys.build_ne_empty blank, fits⟩
  | remove key =>
    simp only [Call.request, request, Plain.call]
    by_cases blank : key = ""
    · subst blank
      exact answered
    · rw [if_neg blank, if_neg (by simpa [String.isEmpty_iff] using blank)]
      exact .deleting _ (p.keys.build key) ((getElem?_addCaller ..).trans (if_pos rfl)) quiet rests
        rfl (p.keys.build_ne_empty blank)

end Proxy

namespace Desk

/-- The keys that origins have been asked for so far, the latest in front. -/
def keysAsked {ω : Type} (d : Desk ω) : List String := (asked d.scene.past).map fun x => x.2.1

variable {keys : KeyScheme} {now : Clocks} {n m : Nat} {goal : Outlook}
  {d d' : Desk Supplier × ByteMap}

/-! ## On the way -/

/-- A call is on its way to what it is to come to: its caller is `n`, and nobody but `m` is
without an answer, who is the caller, or drains after it. -/
structure Heads (keys : KeyScheme) (now : Clocks) (n m : Nat) (goal : Outlook)
    (d : Desk Supplier × ByteMap) : Prop where
  ordered : d.1.InOrder
  keys_eq : d.1.proxy.keys = keys
  there : m < d.1.proxy.callers.length
  rest : ∀ (c : Nat) (x : Caller Supplier), d.1.proxy.callers[c]? = some x → c ≠ m →
    ∃ r, x.stage = .answered r
  drains : m ≠ n → ∀ x, d.1.proxy.callers[m]? = some x → x.request = .drain
  stays : ∀ c, d.1.proxy.stage? c ≠ some .gone
  saves : d.1.proxy.saves = []
  stands : ∃ o, d.1.proxy.Stands now n (storeOrders d.1.orders) (Shelf.ofBytes d.2) o ∧
    (o.after d.1.keysAsked).Like now.monotonic goal
  returned : m ≠ n → (∃ r, d.1.proxy.result? m = some r) → d.1.proxy.Idle

theorem Heads.lone (h : Heads keys now n m goal d) : d.1.proxy.Lone n where
  others c x at_ other := by
    by_cases last : c = m
    · subst last
      exact Or.inr (h.drains other x at_)
    · exact Or.inl (h.rest c x at_ last)
  saves := h.saves

theorem keysAsked_cons {ω : Type} (proxy : Proxy ω) (due : List Errand) (turn : Turn ω)
    (past : List (Turn ω)) (orders orders' : List (Effect ω)) :
    keysAsked ⟨⟨proxy, due, turn :: past⟩, orders⟩ =
      ReadThrough.keysAsked turn.effects ++ keysAsked ⟨⟨proxy, due, past⟩, orders'⟩ :=
  List.map_append

/-- Nothing that the store is asked for is asked for in vain. -/
theorem InOrder.wanted (h : d.1.InOrder) (stays : ∀ c, d.1.proxy.stage? c ≠ some .gone)
    {x : Effect Supplier} (due : x ∈ storeOrders d.1.orders) :
    ∃ r, x.errand? = some r ∧ d.1.proxy.next? r.task = some r := by
  obtain ⟨here, r, asked, store⟩ := mem_storeOrders.1 due
  have listed : r ∈ d.1.scene.due := by
    rw [← h.listed]
    exact mem_errands.2 ⟨x, here, asked⟩
  refine ⟨r, asked, ?_⟩
  rcases (h.orderly r store listed).2 with needed | ⟨c, -, gone⟩
  · exact needed
  · exact absurd gone (stays c)

/-- What is carried out is something that the surroundings bring, and it is not in vain if the
store is changed by it. -/
theorem Carried.brings (carried : Carried ByteMap.keeper now d d') (ordered : d.1.InOrder)
    (stays : ∀ c, d.1.proxy.stage? c ≠ some .gone) {o : Outlook}
    (stands : d.1.proxy.Stands now n (storeOrders d.1.orders) (Shelf.ofBytes d.2) o) :
    ∃ e, d.1.proxy.Brings now (storeOrders d.1.orders) (Shelf.ofBytes d.2) e
        (storeOrders (d.1.left e)) (Shelf.ofBytes d'.2) ∧
      d'.1 = d.1.tell now.wall e ∧ (∃ r, e.errand? = some r ∧ ∀ c, r ≠ .limit c) ∧
      (d.1.proxy.step now.wall e = none →
        storeOrders (d.1.left e) = storeOrders d.1.orders ∧ d'.2 = d.2) := by
  cases carried with
  | resume t due =>
    have left : storeOrders (d.1.left (.resume t)) = storeOrders d.1.orders :=
      storeOrders_left rfl
    refine ⟨.resume t, ?_, rfl, ⟨_, rfl, by simp⟩, fun _ => ⟨left, rfl⟩⟩
    rw [left]
    exact .resume t
  | answer id key origin due =>
    obtain ⟨f, at_, rfl, rfl⟩ := ordered.faithful id key origin due
    have left : storeOrders (d.1.left (.originAnswered id (f.plan.origin.answer f.key))) =
        storeOrders d.1.orders := storeOrders_left rfl
    refine ⟨_, ?_, rfl, ⟨_, rfl, by simp⟩, fun _ => ⟨left, rfl⟩⟩
    rw [left]
    exact .answer id f at_
  | serve x e s due carried =>
    obtain ⟨same, r, asked, store⟩ := Keeper.carryOut_errand? carried
    have listed : x ∈ storeOrders d.1.orders := mem_storeOrders.2 ⟨due, r, asked, store⟩
    obtain ⟨only, servable⟩ := stands.servable listed
    have left : storeOrders (d.1.left e) = [] :=
      storeOrders_left_of_forStore (same.trans asked) store only asked
    refine ⟨e, ?_, rfl, ⟨r, same.trans asked, ?_⟩, fun stuck => ?_⟩
    · rw [left]
      exact .of_carryOut only servable carried
    · rintro c rfl
      cases store
    · obtain ⟨r', asked', needed⟩ := ordered.wanted stays listed
      rw [asked] at asked'
      cases asked'
      obtain ⟨p, fx, moves⟩ :=
        Proxy.step_of_next? ordered.sane needed (same.trans asked) now.wall
      rw [stuck] at moves
      cases moves

/-- **Wherever a call is on its way to, it stays on its way there.** -/
theorem Heads.carried (h : Heads keys now n m goal d) (carried : Carried ByteMap.keeper now d d') :
    Heads keys now n m goal d' := by
  obtain ⟨o, stands, like⟩ := h.stands
  obtain ⟨e, brings, told, ⟨r, run, timeless⟩, stuck⟩ := carried.brings h.ordered h.stays stands
  have ordered := carried.inOrder h.ordered
  have uncalled : ∀ q, e ≠ .request q := by
    rintro q rfl
    cases run
  obtain ⟨desk, store⟩ := d'
  change desk = _ at told
  rcases d.1.tell_cases now.wall e with ⟨moveless, same⟩ | ⟨p, fx, moves, taken, same⟩
  · obtain ⟨left, rfl⟩ := stuck moveless
    rw [same] at told
    subst told
    exact ⟨ordered, h.keys_eq, h.there, h.rest, h.drains, h.stays, h.saves,
      ⟨o, by rw [left]; exact stands, like⟩, h.returned⟩
  · rw [same] at told
    subst told
    obtain ⟨o', stands', like'⟩ := stands.step h.ordered.sane h.ordered.patient h.lone brings taken
    have lone := h.lone.step stands h.ordered.patient taken uncalled
    have rest : ∀ (c : Nat) (x : Caller Supplier), p.callers[c]? = some x → c ≠ m →
        ∃ r, x.stage = .answered r := by
      intro c x at_ other
      rcases taken.caller_cases at_ with before | ⟨-, came, -⟩ | ⟨y, before, -, waits⟩
      · exact h.rest c x before other
      · exact absurd came (uncalled _)
      · obtain ⟨r, answered⟩ := h.rest c y before other
        rw [answered] at waits
        cases waits
    have drains : m ≠ n → ∀ x, p.callers[m]? = some x → x.request = .drain := by
      intro late x at_
      rcases taken.request at_ with ⟨y, before, same⟩ | came
      · exact same ▸ h.drains late y before
      · exact absurd came (uncalled _)
    refine ⟨ordered, taken.keys.trans h.keys_eq,
      Nat.lt_of_lt_of_le h.there taken.callers_length_le, rest, drains, ?_, lone.saves,
      ⟨o', ?_, ?_⟩, ?_⟩
    · intro c gone
      rcases taken.gone gone with before | rfl
      · exact h.stays c before
      · cases run
    · rw [storeOrders_told]
      exact stands'
    · rw [keysAsked_cons p _ _ _ _ d.1.orders, ← Outlook.after_after]
      exact (like'.after d.1.keysAsked).trans like
    · rintro late ⟨a, now_returned⟩
      by_cases before : ∃ a, d.1.proxy.result? m = some a
      · -- Once the drain has returned, there is nothing left to be carried out.
        have needed := taken.needed run timeless
        rw [h.returned late before r.task] at needed
        cases needed
      · obtain ⟨x, at_, answered⟩ := Proxy.result?_eq_some_iff.1 now_returned
        have pending := taken.pending_of_drained h.ordered.patient at_ (drains late x at_) answered
          (Option.eq_none_iff_forall_ne_some.2 fun a known => before ⟨a, known⟩)
        exact stands'.idle ordered.sane pending (Proxy.answered_of_rest rest now_returned) lone.saves

/-! ## At rest -/

/-- Everybody has an answer, and nothing is needed. -/
structure Resting (keys : KeyScheme) (d : Desk Supplier × ByteMap) : Prop where
  ordered : d.1.InOrder
  keys_eq : d.1.proxy.keys = keys
  idle : d.1.proxy.Idle
  answered : ∀ (c : Nat) (x : Caller Supplier), d.1.proxy.callers[c]? = some x →
    ∃ r, x.stage = .answered r
  saves : d.1.proxy.saves = []

theorem resting_start (keys : KeyScheme) (maxTasks : Nat) (m : ByteMap) :
    Resting keys (start keys maxTasks, m) where
  ordered := inOrder_start keys maxTasks
  keys_eq := rfl
  idle t := by cases t <;> rfl
  answered c x at_ := by simp [start, proxy, Scene.start, Proxy.ofPool] at at_
  saves := rfl

theorem Resting.stays (h : Resting keys d) (c : Nat) : d.1.proxy.stage? c ≠ some .gone := by
  intro gone
  obtain ⟨x, at_, left⟩ := Option.map_eq_some_iff.1 gone
  obtain ⟨r, answered⟩ := h.answered c x at_
  rw [left] at answered
  cases answered

theorem InOrder.storeOrders_of_idle (h : d.1.InOrder)
    (stays : ∀ c, d.1.proxy.stage? c ≠ some .gone) (idle : d.1.proxy.Idle) :
    storeOrders d.1.orders = [] := by
  refine List.eq_nil_iff_forall_not_mem.2 fun x due => ?_
  obtain ⟨r, -, needed⟩ := h.wanted stays due
  rw [idle r.task] at needed
  cases needed

/-- From a desk at rest, a call is on its way to what a plain cache would do. -/
theorem Resting.request (h : Resting keys d) (now : Clocks) (call : Call) :
    Heads keys now d.1.proxy.callers.length d.1.proxy.callers.length
      ((Plain.call keys now (Shelf.ofBytes d.2) call).after d.1.keysAsked)
      (d.1.tell now.wall (.request call.request), d.2) := by
  have unordered := h.ordered.storeOrders_of_idle h.stays h.idle
  have stands := Proxy.stands_request now (Shelf.ofBytes d.2) h.ordered.sane h.idle.quiet
    (h.idle.queued h.ordered.sane h.saves) call
  have ordered := h.ordered.tell now.wall (.request call.request)
  rw [h.keys_eq] at stands
  rcases d.1.tell_cases now.wall (.request call.request) with
    ⟨stuck, -⟩ | ⟨p, fx, moves, taken, told⟩
  · cases stuck
  · have unasked : ReadThrough.keysAsked fx = [] := taken.keysAsked_eq_nil (by simp)
    have made : d.1.proxy.request now.wall call.request = (p, fx) := Option.some.inj moves
    rw [made] at stands
    rw [told] at ordered ⊢
    obtain ⟨x, here, -⟩ := stands.caller
    refine ⟨ordered, taken.keys.trans h.keys_eq, (List.getElem?_eq_some_iff.1 here).1, ?_,
      fun late => absurd rfl late, ?_, ?_,
      ⟨Plain.call keys now (Shelf.ofBytes d.2) call, ?_, ?_⟩, fun late => absurd rfl late⟩
    · intro c x at_ other
      rcases taken.caller_cases at_ with before | ⟨new, -⟩ | ⟨y, before, -, waits⟩
      · exact h.answered c x before
      · exact absurd new other
      · obtain ⟨r, answered⟩ := h.answered c y before
        rw [answered] at waits
        cases waits
    · intro c gone
      rcases taken.gone gone with before | e
      · exact h.stays c before
      · cases e
    · by_contra some_save
      rcases taken.saves some_save with before | ⟨c, policy, key, origin, flight, at_, -⟩
      · exact before h.saves
      · obtain ⟨r, answered⟩ := h.answered c _ at_
        cases answered
    · rw [storeOrders_told, show d.1.left _ = d.1.orders from rfl, unordered, List.nil_append]
      exact stands
    · rw [keysAsked_cons _ _ _ _ _ d.1.orders, unasked, List.nil_append]
      exact .refl _ _

/-- Once the caller has its answer, a drain changes nothing about what the call comes to. -/
theorem Heads.drain (h : Heads keys now n n goal d) {a : Outcome Answer}
    (known : d.1.proxy.result? n = some a) :
    Heads keys now n d.1.proxy.callers.length goal (d.1.tell now.wall (.request .drain), d.2) := by
  obtain ⟨o, stands, like⟩ := h.stands
  have answered := Proxy.answered_of_rest h.rest known
  have ordered := h.ordered.tell now.wall (.request .drain)
  rcases d.1.tell_cases now.wall (.request .drain) with ⟨stuck, -⟩ | ⟨p, fx, -, taken, told⟩
  · cases stuck
  · have unasked : ReadThrough.keysAsked fx = [] := taken.keysAsked_eq_nil (by simp)
    obtain ⟨rfl, fetches, queued, saves, st, callers⟩ := taken.of_drain
    have drains : ∀ x, p.callers[d.1.proxy.callers.length]? = some x → x.request = .drain := by
      intro x at_
      rw [callers, List.getElem?_concat_length] at at_
      cases at_
      rfl
    have rest : ∀ (c : Nat) (x : Caller Supplier), p.callers[c]? = some x →
        c ≠ d.1.proxy.callers.length → ∃ r, x.stage = .answered r := by
      intro c x at_ other
      rw [callers, getElem?_append_singleton, if_neg other] at at_
      exact answered c x at_
    have stands' : p.Stands now n (storeOrders d.1.orders) (Shelf.ofBytes d.2) o := by
      refine stands.congr taken.keys fetches ?_ queued
      rw [callers, List.getElem?_append_left h.there]
    rw [told] at ordered ⊢
    refine ⟨ordered, taken.keys.trans h.keys_eq, ?_, rest, fun _ => drains, ?_,
      saves.trans h.saves, ⟨o, ?_, ?_⟩, ?_⟩
    · show d.1.proxy.callers.length < p.callers.length
      rw [callers, List.length_append]
      exact Nat.lt_succ_self _
    · intro c gone
      rcases taken.gone gone with before | e
      · exact h.stays c before
      · cases e
    · rw [storeOrders_told, show storeOrders ([] : List (Effect Supplier)) = [] from rfl,
        List.append_nil]
      exact stands'
    · rw [keysAsked_cons _ _ _ _ _ d.1.orders, unasked, List.nil_append]
      exact like
    · rintro - ⟨b, at_once⟩
      obtain ⟨x, at_, returned⟩ := Proxy.result?_eq_some_iff.1 at_once
      have pending := taken.pending_of_drained h.ordered.patient at_ (drains x at_) returned
        (by simp [Proxy.result?, Proxy.stage?])
      exact stands'.idle ordered.sane pending (Proxy.answered_of_rest rest at_once)
        (saves.trans h.saves)

/-- When the drain has returned, the call has come to what it was to come to, and the desk is at
rest. -/
theorem Heads.rested (h : Heads keys now n m goal d) (late : m ≠ n) {a : Outcome Answer}
    (known : d.1.proxy.result? m = some a) :
    Resting keys d ∧ d.1.keysAsked = goal.asked ∧
      Shelf.Agree now.monotonic (Shelf.ofBytes d.2) goal.shelf := by
  have idle := h.returned late ⟨a, known⟩
  obtain ⟨o, stands, like⟩ := h.stands
  rw [h.ordered.storeOrders_of_idle h.stays idle] at stands
  obtain ⟨unasked, shelf⟩ := stands.of_idle idle h.ordered.sane h.saves
  refine ⟨⟨h.ordered, h.keys_eq, idle, Proxy.answered_of_rest h.rest known, h.saves⟩, ?_, ?_⟩
  · rw [← like.asked, Outlook.after, unasked, List.nil_append]
  · rw [← shelf]
    exact like.shelf

/-- Whoever is still without an answer gets one, whatever way the surroundings take. -/
theorem Heads.inevitably (h : Heads keys now n m goal d) :
    Inevitably (Carried ByteMap.keeper now) (fun d => ∃ a, d.1.proxy.result? m = some a) d := by
  refine Desk.inevitably (I := Heads keys now n m goal) (fun d h => h.ordered)
    (fun d d' h carried => h.carried carried) (fun d h idle => ?_) h
  obtain ⟨x, at_⟩ : ∃ x, d.1.proxy.callers[m]? = some x := ⟨_, List.getElem?_eq_getElem h.there⟩
  have settled := idle.caller h.ordered.sane at_
  cases stage : x.stage with
  | answered a => exact ⟨a, Proxy.result?_eq_some_iff.2 ⟨_, at_, stage⟩⟩
  | gone =>
    refine absurd ?_ (h.stays m)
    rw [Proxy.stage?, at_, Option.map_some, stage]
  | reading | waiting | saving | writing | deleting | draining =>
    rw [stage] at settled
    cases settled

/-! ## One call after another -/

/-- A call from its request to the moment when nothing is pending behind it, and what is seen of
it. The drain is requested when the caller has its answer. -/
inductive Course (now : Clocks) (call : Call) (d : Desk Supplier × ByteMap) :
    Report → Desk Supplier × ByteMap → Prop
  | mk (mid done : Desk Supplier × ByteMap) (a r : Outcome Answer) (asked : List String)
      (goes : ReflTransGen (Carried ByteMap.keeper now)
        (d.1.tell now.wall (.request call.request), d.2) mid)
      (answered : mid.1.proxy.result? d.1.proxy.callers.length = some a)
      (drains : ReflTransGen (Carried ByteMap.keeper now)
        (mid.1.tell now.wall (.request .drain), mid.2) done)
      (returned : done.1.proxy.result? mid.1.proxy.callers.length = some r)
      (asks : done.1.keysAsked = asked ++ d.1.keysAsked) :
      Course now call d ⟨a, asked, (Shelf.ofBytes done.2).live? now.monotonic⟩ done

/-- Calls, each of which comes when the one before it is over, and what is seen of each. -/
inductive Courses : Desk Supplier × ByteMap → List (Clocks × Call) → List Report →
    Desk Supplier × ByteMap → Prop
  | nil (d : Desk Supplier × ByteMap) : Courses d [] [] d
  | cons (now : Clocks) (call : Call) (r : Report) (d d' d'' : Desk Supplier × ByteMap)
      (calls : List (Clocks × Call)) (reports : List Report) (first : Course now call d r d')
      (others : Courses d' calls reports d'') :
      Courses d ((now, call) :: calls) (r :: reports) d''

/-- The call returns in whatever order what is ordered is carried out, and so does the drain that
comes after it. -/
def Returns (now : Clocks) (call : Call) (d : Desk Supplier × ByteMap) : Prop :=
  Inevitably (Carried ByteMap.keeper now)
    (fun mid => ∃ a, mid.1.proxy.result? d.1.proxy.callers.length = some a)
    (d.1.tell now.wall (.request call.request), d.2) ∧
  ∀ mid a, ReflTransGen (Carried ByteMap.keeper now)
      (d.1.tell now.wall (.request call.request), d.2) mid →
    mid.1.proxy.result? d.1.proxy.callers.length = some a →
    Inevitably (Carried ByteMap.keeper now)
      (fun done => ∃ r, done.1.proxy.result? mid.1.proxy.callers.length = some r)
      (mid.1.tell now.wall (.request .drain), mid.2)

theorem Heads.reach (h : Heads keys now n m goal d)
    (goes : ReflTransGen (Carried ByteMap.keeper now) d d') : Heads keys now n m goal d' := by
  induction goes with
  | refl => exact h
  | tail before last ih => exact ih.carried last

theorem Resting.returns (h : Resting keys d) (now : Clocks) (call : Call) : Returns now call d :=
  ⟨(h.request now call).inevitably, fun _ _ goes answered =>
    (((h.request now call).reach goes).drain answered).inevitably⟩

/-- **One call of the proxy is one call of the plain cache.** -/
theorem Course.refines {call : Call} {r : Report} {s : Shelf} (course : Course now call d r d')
    (h : Resting keys d) (agree : Shelf.Agree now.monotonic (Shelf.ofBytes d.2) s) :
    Resting keys d' ∧
      r = (Plain.call keys now s call).report now ∧
      Shelf.Agree now.monotonic (Shelf.ofBytes d'.2) (Plain.call keys now s call).shelf := by
  cases course with
  | mk mid done a r asked goes answered drains returned asks =>
    have heads := (h.request now call).reach goes
    have late : mid.1.proxy.callers.length ≠ d.1.proxy.callers.length := Nat.ne_of_gt heads.there
    obtain ⟨rest, asked_eq, shelf⟩ := ((heads.drain answered).reach drains).rested late returned
    obtain ⟨o, stands, like⟩ := heads.stands
    have same := Plain.call_like agree keys call
    have agree' := shelf.trans same.shelf
    refine ⟨rest, ?_, agree'⟩
    have answer : a = (Plain.call keys now s call).answer :=
      (stands.answer_eq answered).symm.trans (like.answer.trans same.answer)
    have keys_asked : asked = (Plain.call keys now s call).asked := by
      rw [← same.asked]
      exact List.append_cancel_right (asks.symm.trans asked_eq)
    have live : (Shelf.ofBytes d'.2).live? now.monotonic =
        (Plain.call keys now s call).shelf.live? now.monotonic :=
      funext fun key => agree' now.monotonic key (Moment.le_refl _)
    rw [answer, keys_asked, live]
    rfl

theorem Courses.refines {calls : List (Clocks × Call)} {reports : List Report} {s : Shelf}
    (courses : Courses d calls reports d') (h : Resting keys d)
    (forward : calls.Pairwise fun x y => x.1.monotonic ≤ y.1.monotonic)
    (agree : ∀ x ∈ calls, Shelf.Agree x.1.monotonic (Shelf.ofBytes d.2) s) :
    Resting keys d' ∧ reports = Plain.run keys s calls := by
  induction courses generalizing s with
  | nil d => exact ⟨h, rfl⟩
  | cons now call r d d' d'' calls reports first others ih =>
    obtain ⟨later, forward⟩ := List.pairwise_cons.1 forward
    obtain ⟨rest, rfl, agree'⟩ := first.refines h (agree _ List.mem_cons_self)
    obtain ⟨last, rfl⟩ := ih rest forward fun x hx => agree'.mono (later x hx)
    exact ⟨last, rfl⟩

theorem Resting.exists_course (h : Resting keys d) (now : Clocks) (call : Call) :
    ∃ r d', Course now call d r d' := by
  obtain ⟨mid, goes, a, answered⟩ := (h.request now call).inevitably.reached
  have heads := (h.request now call).reach goes
  obtain ⟨done, drains, r, returned⟩ := (heads.drain answered).inevitably.reached
  obtain ⟨-, asks, -⟩ := ((heads.drain answered).reach drains).rested
    (Nat.ne_of_gt heads.there) returned
  exact ⟨_, done, .mk mid done a r _ goes answered drains returned asks⟩

theorem Resting.exists_courses (h : Resting keys d) (calls : List (Clocks × Call)) :
    ∃ reports d', Courses d calls reports d' := by
  induction calls generalizing d with
  | nil => exact ⟨[], d, .nil d⟩
  | cons x calls ih =>
    obtain ⟨r, d', first⟩ := h.exists_course x.1 x.2
    obtain ⟨reports, d'', others⟩ := ih (first.refines h (.refl _ _)).1
    exact ⟨r :: reports, d'', .cons x.1 x.2 r d d' d'' calls reports first others⟩

/-- **A proxy that is called one call at a time is a plain cache.** Take any key scheme, any number
of permits, anything in the store, and any calls without a limit on their wait, each of which
comes when the one before it has returned and the pool has been drained, while the monotonic clock
does not go back between them. Such a run exists; and whichever way it goes, the answers, the keys
that the origins are asked for, and what is live in the store at each end of a drain are those of
the plain cache. Any further call would return as well, and so would the drain after it, in whatever
order its tasks, the store and its origin act. -/
theorem sequential_refinement (keys : KeyScheme) (maxTasks : Nat) (m : ByteMap)
    (calls : List (Clocks × Call))
    (forward : calls.Pairwise fun x y => x.1.monotonic ≤ y.1.monotonic) :
    (∃ reports d, Courses (start keys maxTasks, m) calls reports d) ∧
    ∀ reports d, Courses (start keys maxTasks, m) calls reports d →
      reports = Plain.run keys (Shelf.ofBytes m) calls ∧
      ∀ now call, Returns now call d := by
  have rest := resting_start keys maxTasks m
  refine ⟨rest.exists_courses calls, ?_⟩
  intro reports d courses
  obtain ⟨last, same⟩ := courses.refines rest forward fun _ _ => .refl _ _
  exact ⟨same, last.returns⟩

/-- A value is set; when it is stale, a lookup is answered with it and has it refreshed; the next
lookup does not need its origin. -/
def refreshed : List (Clocks × Call) :=
  let later : Clocks := ⟨.ofSeconds 700, .ofSeconds 700⟩
  [(⟨.epoch, .epoch⟩, .set .default "k" "old" (by decide)),
    (later, .lookup (.staleWhileRevalidate Policy.defaultRefreshAfter) "k"
      ⟨fun _ => .ok (.steady "new"), by rintro key a ⟨⟩; decide⟩ rfl),
    (later, .lookup .default "k" ⟨fun _ => .failed (.origin "down"), nofun⟩ rfl)]

theorem sequential_refinement_refreshed :
    ∃ reports d, Courses (start ⟨none⟩ 1, Table.empty) refreshed reports d ∧
      reports.map (fun r => (r.answer, r.asked)) =
        [(.ok .done, []), (.ok (.found "old" true), ["k"]), (.ok (.found "new" true), [])] := by
  obtain ⟨⟨reports, d, courses⟩, same⟩ :=
    sequential_refinement ⟨none⟩ 1 Table.empty refreshed (by decide)
  refine ⟨reports, d, courses, ?_⟩
  rw [(same reports d courses).1]
  rfl

end Desk

end ReadThrough
