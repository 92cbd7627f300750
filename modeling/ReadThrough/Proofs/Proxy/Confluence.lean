import ReadThrough.Proofs.Proxy.Answers
import ReadThrough.Proofs.Proxy.Counting

/-!
# What a cold cache comes to

Lookups, any number of them and in any order, run on a proxy whose store is empty. Some join a
fetch, some start one while the write of the last is still waiting, some find an entry and
refresh it, some leave; and the writes under one key come from fetches, jobs and saves that know
nothing of each other. Still there is one thing that the store can come to. If every origin always
has the same outcome for a key, all writes under a key agree in payload and mark, whoever makes
them and when; so it does not matter which is the last, only that one is made, and for that it is
enough that somebody came as far as to want a fetch.

A `Depot` is a proxy at work on a store where nothing is done at once: the store carries an order
out some time after it was given, and the proxy hears of it some time after that, each in any
order. Callers only look up, or wait until nothing is pending.
-/

set_option autoImplicit false

namespace ReadThrough

/-! ## Looking back -/

section History

variable {ω : Type}

/-- Some call has come as far as to want a fetch of the key. -/
def Reached (past : List (Turn ω)) (key : String) : Prop :=
  ∃ t ∈ past, ∃ w, t.before.wish? t.now t.event = some w ∧ w.key = key

theorem reached_of_leader? {past : List (Turn ω)} {id : Nat} {w : Wish ω}
    (led : leader? past id = some w) : Reached past w.key := by
  induction past with
  | nil => cases led
  | cons t past ih =>
    rw [leader?] at led
    split at led
    · exact exists_cons_self past ⟨w, led, rfl⟩
    · exact exists_cons (ih led) t

/-- A cause has its time from the turn in which it arose. -/
theorem turn_of_cause {past : List (Turn ω)} {c : Cause} (hc : c ∈ causes past) :
    ∃ t ∈ past, t.now = c.moment := by
  induction past with
  | nil => cases hc
  | cons t past ih =>
    rcases List.mem_append.1 hc with new | old
    · refine exists_cons_self past ?_
      rcases Proxy.cause?_cases (Option.mem_toList.1 new) with
        ⟨_, _, _, -, -, rfl⟩ | ⟨_, _, _, -, -, rfl⟩ | ⟨_, again⟩
      · rfl
      · rfl
      · obtain ⟨_, _, _, _, _, -, -, rfl⟩ := Proxy.again?_eq_some again
        rfl
    · exact exists_cons (ih old) t

/-- Whoever has called has come in some turn. -/
theorem Trail.request_of_called {p₀ p : Proxy ω} {past : List (Turn ω)} (trail : Trail p₀ past p)
    (nobody : p₀.callers = []) {r : Request ω} (called : p.Called r) :
    ∃ t ∈ past, t.event = .request r := by
  induction trail with
  | start =>
    obtain ⟨c, x, at_, -⟩ := called
    rw [nobody] at at_
    cases at_
  | turn t past sofar sane step ih =>
    obtain ⟨c, x, at_, rfl⟩ := called
    rcases step.caller_cases at_ with before | ⟨-, event, -⟩ | ⟨y, before, same, -⟩
    · exact exists_cons (ih ⟨c, x, before, rfl⟩) t
    · exact exists_cons_self past event
    · exact exists_cons (ih ⟨c, y, before, same⟩) t

end History

/-! ## A depot -/

/-- A proxy and its store, with what is on the way between them. -/
structure Depot (σ ω : Type) where
  scene : Scene ω
  store : σ
  /-- What the store has been asked for and has not done. -/
  orders : List (Effect ω)
  /-- What the store has done and the proxy has not heard of. -/
  replies : List (Event ω)

namespace Depot

variable {σ ω : Type}

/-- What can happen at a depot. -/
inductive Move (ω : Type) where
  | call (policy : Policy) (key : String) (origin : ω)
  | drain
  | turn (task : Task)
  /-- The origin answers a fetch. -/
  | supply (fetch : Nat)
  | tooLong (caller : Nat)
  /-- A limit cannot be set, and setting it crashes. -/
  | untimeable (caller : Nat) (text : String)
  | leave (caller : Nat)
  /-- The store carries out the order in this place. -/
  | carry (order : Nat)
  /-- The proxy hears the reply in this place. -/
  | report (reply : Nat)

/-- What the proxy is told of a move that the store has no part in; the origin's outcome depends
on nothing but the key. -/
def Move.event? (answer : String → Outcome Fetched) (p : Proxy ω) : Move ω → Option (Event ω)
  | call policy key origin => some (.request (.lookup policy key origin))
  | drain => some (.request .drain)
  | turn task => some (.resume task)
  | supply id => (p.fetches.fetches[id]?).map fun f => .originAnswered id (answer f.key)
  | tooLong c => some (.limitPassed c)
  | untimeable c text => some (.limitCrashed c text)
  | leave c => some (.abandoned c)
  | carry _ | report _ => none

def start (keys : KeyScheme) (maxTasks : Nat) (store : σ) : Depot σ ω :=
  ⟨.start keys maxTasks, store, [], []⟩

def proxy (d : Depot σ ω) : Proxy ω := d.scene.proxy

/-- The proxy is told something, and asks the store for what it needs. -/
def tell (d : Depot σ ω) (now : Moment) (e : Event ω) : Depot σ ω :=
  { d with
    scene := d.scene.act now e
    orders := d.orders ++
      ((d.proxy.step now e).elim [] (·.2)).filter fun x => x.errand?.any Errand.forStore }

/-- One thing happens. -/
def act (k : Keeper σ) (answer : String → Outcome Fetched) (d : Depot σ ω) (c : Clocks)
    (m : Move ω) : Depot σ ω :=
  match m with
  | .carry i =>
    match (d.orders[i]?).bind (k.carryOut c.monotonic d.store) with
    | some (e, store) =>
      { d with store := store, orders := d.orders.eraseIdx i, replies := d.replies ++ [e] }
    | none => d
  | .report i =>
    match d.replies[i]? with
    | some e => { d.tell c.wall e with replies := d.replies.eraseIdx i }
    | none => d
  | m =>
    match m.event? answer d.proxy with
    | some e => d.tell c.wall e
    | none => d

def run (k : Keeper σ) (answer : String → Outcome Fetched) (d : Depot σ ω)
    (ms : List (Clocks × Move ω)) : Depot σ ω :=
  ms.foldl (fun d m => act k answer d m.1 m.2) d

variable {k : Keeper σ} {shelf : σ → Shelf} {answer : String → Outcome Fetched} {keys : KeyScheme}
  {maxTasks : Nat} {last : Moment} {ms : List (Clocks × Move ω)} {d : Depot σ ω}

theorem act_cases (k : Keeper σ) (answer : String → Outcome Fetched) (d : Depot σ ω) (c : Clocks)
    (m : Move ω) :
    (∃ e, m.event? answer d.proxy = some e ∧ act k answer d c m = d.tell c.wall e) ∨
    (∃ i x e store, m = .carry i ∧ d.orders[i]? = some x ∧
      k.carryOut c.monotonic d.store x = some (e, store) ∧ act k answer d c m =
        { d with store := store, orders := d.orders.eraseIdx i, replies := d.replies ++ [e] }) ∨
    (∃ i e, d.replies[i]? = some e ∧
      act k answer d c m = { d.tell c.wall e with replies := d.replies.eraseIdx i }) ∨
    act k answer d c m = d := by
  have told : ∀ {m : Move ω}, act k answer d c m = (match m.event? answer d.proxy with
      | some e => d.tell c.wall e
      | none => d) →
      (∃ e, m.event? answer d.proxy = some e ∧ act k answer d c m = d.tell c.wall e) ∨
        act k answer d c m = d := by
    intro m acts
    cases event : m.event? answer d.proxy with
    | none => exact Or.inr (by rw [acts, event])
    | some e => exact Or.inl ⟨e, rfl, by rw [acts, event]⟩
  cases m with
  | carry i =>
    cases done : (d.orders[i]?).bind (k.carryOut c.monotonic d.store) with
    | none => exact Or.inr (Or.inr (Or.inr (by simp only [act, done])))
    | some es =>
      obtain ⟨x, at_, carried⟩ := Option.bind_eq_some_iff.1 done
      exact Or.inr (Or.inl ⟨i, x, es.1, es.2, rfl, at_, carried, by simp only [act, done]⟩)
  | report i =>
    cases at_ : d.replies[i]? with
    | none => exact Or.inr (Or.inr (Or.inr (by simp only [act, at_])))
    | some e => exact Or.inr (Or.inr (Or.inl ⟨i, e, at_, by simp only [act, at_]⟩))
  | call | drain | turn | supply | tooLong | untimeable | leave =>
    exact (told rfl).imp_right fun same => Or.inr (Or.inr same)

/-! ## What is given -/

/-- The write that the store carries out in this move. -/
def Move.write? (d : Depot σ ω) : Move ω → Option Write
  | carry i => (d.orders[i]?).bind Effect.write?
  | _ => none

/-- The deadlines that the store sets in a run; none stands for one that the clock cannot show. -/
def deadlines (k : Keeper σ) (answer : String → Outcome Fetched) :
    Depot σ ω → List (Clocks × Move ω) → List (Option Moment)
  | _, [] => []
  | d, (c, m) :: ms =>
    (m.write? d).toList.map (fun w => c.monotonic.add? w.ttl) ++
      deadlines k answer (act k answer d c m) ms

/-- The wall clock shows no time before 1970, and what is written can be read until the end: its
deadline is one that the clock can show, and is not reached. -/
structure Lenient (k : Keeper σ) (answer : String → Outcome Fetched) (last : Moment)
    (d : Depot σ ω) (ms : List (Clocks × Move ω)) : Prop where
  since1970 : ∀ m ∈ ms, 0 ≤ m.1.wall.seconds
  upTo : ∀ m ∈ ms, m.1.monotonic ≤ last
  lives : ∀ x ∈ deadlines k answer d ms, ∃ deadline, x = some deadline ∧ last < deadline
  /-- The length of a payload can be written down. -/
  fits : ∀ key a, answer key = .ok a → a.payload.utf8ByteSize < 18446744073709551616

theorem Lenient.tail {m : Clocks × Move ω} (h : Lenient k answer last d (m :: ms)) :
    Lenient k answer last (act k answer d m.1 m.2) ms where
  since1970 n hn := h.since1970 n (List.mem_cons_of_mem _ hn)
  upTo n hn := h.upTo n (List.mem_cons_of_mem _ hn)
  lives x hx := h.lives x (List.mem_append_right _ hx)
  fits := h.fits

theorem Lenient.of_carry {c : Clocks} {i : Nat} {t : Task} {w : Write}
    (h : Lenient k answer last d ((c, .carry i) :: ms))
    (at_ : d.orders[i]? = some (.write t w.storeKey w.value w.ttl)) :
    ∃ deadline, c.monotonic.add? w.ttl = some deadline ∧ last < deadline := by
  refine h.lives _ (List.mem_append_left _ (List.mem_map.2 ⟨w, ?_, rfl⟩))
  rw [Move.write?, at_]
  exact List.mem_singleton.2 rfl

/-- A turn as there are at a depot. -/
structure Tame (answer : String → Outcome Fetched) (t : Turn ω) : Prop where
  since1970 : 0 ≤ t.now.seconds
  request : ∀ r, t.event = .request r → r = .drain ∨
    ∃ policy key origin, r = .lookup policy key origin
  answered : ∀ id r, t.event = .originAnswered id r →
    ∃ f, t.before.fetches.fetches[id]? = some f ∧ r = answer f.key

/-- A read or a write is all that the store is asked for at a depot, where nobody removes
anything. -/
theorem Tame.asks {now : Moment} {e : Event ω} {p p' : Proxy ω} {fx : List (Effect ω)}
    (tame : Tame answer ⟨now, e, p, fx, p'⟩) (step : p.Step now e fx p') {x : Effect ω}
    (hx : x ∈ fx) (store : x.errand?.any Errand.forStore = true) : (∃ c key, x = .read c key) ∨
      ∃ task w, x = .write task w.storeKey w.value w.ttl ∧ w ∈ writesOf fx := by
  cases x with
  | read c key => exact Or.inl ⟨c, key, rfl⟩
  | write task key v ttl =>
    exact Or.inr ⟨task, ⟨key, v, ttl⟩, rfl, List.mem_filterMap.2 ⟨_, hx, rfl⟩⟩
  | delete c key =>
    obtain ⟨y, rfl, -, orders⟩ := step.orders rfl (mem_errands.2 ⟨_, hx, rfl⟩)
    cases List.mem_singleton.1 hx
    cases orders with
    | arrive r y s how =>
      cases how
      rcases tame.request _ rfl with other | ⟨_, _, _, other⟩ <;> cases other
  | wake | ask | limit | log => cases store

/-- A scene as there are at a depot. -/
structure Ran (answer : String → Outcome Fetched) (keys : KeyScheme) (maxTasks : Nat)
    (s : Scene ω) : Prop where
  run : ∃ es, s = (Scene.start keys maxTasks).run es
  tame : ∀ t ∈ s.past, Tame answer t

namespace Ran

variable {s : Scene ω}

theorem trail (h : Ran answer keys maxTasks s) :
    Trail (.ofPool keys (.ofLimit maxTasks)) s.past s.proxy := by
  obtain ⟨es, rfl⟩ := h.run
  exact Scene.trail_run keys maxTasks es

theorem sane (h : Ran answer keys maxTasks s) : s.proxy.Sane := by
  obtain ⟨es, rfl⟩ := h.run
  exact Scene.sane_run keys maxTasks es

theorem accounted (h : Ran answer keys maxTasks s) : s.Accounted keys := by
  obtain ⟨es, rfl⟩ := h.run
  exact Scene.accounted_run keys maxTasks es

theorem documented (h : Ran answer keys maxTasks s) : s.Documented := by
  obtain ⟨es, rfl⟩ := h.run
  exact Scene.documented_run keys maxTasks es

/-- What a fetch has been answered is the outcome for the key of its leader. -/
theorem answer_of_leader? (h : Ran answer keys maxTasks s) {id : Nat} {w : Wish ω}
    {o : Outcome Fetched} (led : leader? s.past id = some w)
    (told : ∃ t ∈ s.past, t.event = .originAnswered id o) : answer w.key = o := by
  obtain ⟨t, ht, event⟩ := told
  obtain ⟨f, at_, rfl⟩ := (h.tame t ht).answered id o event
  obtain ⟨g, hg, key, -⟩ :=
    h.trail.lasts_since (Proxy.lasting_fetch id f.key f.plan) ht ⟨f, at_, rfl, rfl⟩
  obtain ⟨v, hv, suits⟩ := (h.documented id g hg).led
  obtain rfl : v = w := Option.some.inj (hv.symm.trans led)
  rw [← suits.key, key]

/-- What there is cause to write is the outcome for its key, and somebody has come as far as to
want that. -/
theorem cause (h : Ran answer keys maxTasks s) {c : Cause} (hc : c ∈ causes s.past) :
    answer c.key = .ok ⟨c.payload, c.volatile⟩ ∧ c.key ≠ "" ∧ Reached s.past c.key ∧
      0 ≤ c.moment.seconds := by
  obtain ⟨some_key, unset⟩ : c.key ≠ "" ∧ c.way ≠ .set := by
    obtain ⟨es, rfl⟩ := h.run
    obtain ⟨some_key, ⟨-, set⟩ | ⟨unset, -⟩⟩ := Scene.called_of_cause keys maxTasks es hc
    · -- Nobody at a depot sets a value.
      obtain ⟨t, ht, event⟩ := h.trail.request_of_called rfl set
      rcases (h.tame t ht).request _ event with other | ⟨_, _, _, other⟩ <;> cases other
    · exact ⟨some_key, unset⟩
  obtain ⟨id, fetch⟩ : ∃ id, c.fetch? = some id := by
    unfold Cause.fetch?
    cases way : c.way with
    | set => exact absurd way unset
    | led id | joined id => exact ⟨id, rfl⟩
  obtain ⟨⟨origin', asked⟩, told⟩ := (h.accounted.sourced c hc).1.fetched id fetch
  obtain ⟨-, w, led, key, -⟩ := h.accounted.asked id c.key origin' asked
  obtain ⟨t, ht, moment⟩ := turn_of_cause hc
  refine ⟨?_, some_key, key ▸ reached_of_leader? led, moment ▸ (h.tame t ht).since1970⟩
  rw [← key]
  exact h.answer_of_leader? led told

/-- Every write that has begun or waits has a cause. -/
theorem cause_of_begun (h : Ran answer keys maxTasks s) {w : Write} (begun : w ∈ begun s.past) :
    ∃ c ∈ causes s.past, c.write keys = w :=
  List.mem_map.1 (h.accounted.books.mem_iff.2 (List.mem_append_left _ begun))

/-- A fetch that is over has been answered what the origin has for the key of its leader. -/
theorem answered (h : Ran answer keys maxTasks s) {id : Nat} {w : Wish ω} {a : Fetched}
    {r : Except Error Fetched} (known : s.proxy.fetches.result? id = some r)
    (led : leader? s.past id = some w) (value : answer w.key = .ok a) : Answered s.past id a := by
  obtain ⟨v, hv, came⟩ : ∃ v, leader? s.past id = some v ∧ CameBy s.past id v.role r := by
    obtain ⟨es, rfl⟩ := h.run
    exact Scene.cameBy_run keys maxTasks es known
  generalize v.role = role at came
  cases came with
  | origin role o told plain =>
    obtain rfl : o = .ok a := (h.answer_of_leader? led told).symm.trans value
    exact told
  | write b r fetched told =>
    obtain rfl : b = a := Outcome.ok.inj ((h.answer_of_leader? led fetched).symm.trans value)
    exact fetched

/-- When no fetch is under way and no write waits, a key that has been reached, and for which the
origin has a value, has been written. -/
theorem begun_of_reached (h : Ran answer keys maxTasks s) (landed : s.proxy.underWay = 0)
    (none_waits : s.proxy.queued = []) {key : String} {a : Fetched} (reached : Reached s.past key)
    (value : answer key = .ok a) : ∃ w ∈ begun s.past, w.storeKey = keys.build key := by
  obtain ⟨t, ht, w, wished, rfl⟩ := reached
  -- The call came to a fetch of its key, which is over by now.
  obtain ⟨sane, step⟩ := h.trail.of_mem ht
  obtain ⟨p₁, flight, gx, how, fetches, -⟩ := step.of_wish? wished
  obtain ⟨f, at_, key⟩ := how.fetch_of_key sane.sound
  rw [← fetches] at at_
  obtain ⟨g, hg, key', -⟩ :=
    h.trail.lasts (Proxy.lasting_fetch _ f.key f.plan) ht ⟨f, at_, rfl, rfl⟩
  obtain ⟨r, known⟩ := h.sane.sound.exists_result? landed hg
  obtain ⟨u, led, suits⟩ := (h.documented _ g hg).led
  have same : u.key = w.key := suits.key.symm.trans (key'.trans key)
  rw [← same] at value ⊢
  -- Its answer is the cause of a write, and no write that there is cause for still waits.
  obtain ⟨c, hc, role, way, -⟩ := h.accounted.answered _ a (h.answered known led value)
  obtain ⟨x, hx, -, -, own⟩ := (h.accounted.sourced c hc).1.led _ role way
  obtain rfl : x = u := Option.some.inj (hx.symm.trans led)
  have written := h.accounted.books.mem_iff.1 (List.mem_map_of_mem hc)
  rw [none_waits, List.append_nil] at written
  exact ⟨_, written, congrArg keys.build own.symm⟩

/-- A write that has begun succeeds when it is carried out, if its deadline can be shown then. -/
theorem put_of_begun (h : Ran answer keys maxTasks s)
    (fits : ∀ key a, answer key = .ok a → a.payload.utf8ByteSize < 18446744073709551616)
    {w : Write} (begins : w ∈ begun s.past) (reliable : k.Reliable shelf) (store : σ)
    {now deadline : Moment} (ends : now.add? w.ttl = some deadline) :
    shelf (k.write now w.storeKey w.value w.ttl store).2 =
      Function.update (shelf store) w.storeKey (some ⟨.ok w.value, some deadline⟩) := by
  obtain ⟨cause, hc, rfl⟩ := h.cause_of_begun begins
  obtain ⟨value, some_key, -, since1970⟩ := h.cause hc
  refine reliable.write _ _ _ _ _ (keys.build_ne_empty some_key) (fits _ _ value) ?_ _ ends
  rintro t made
  cases made
  exact since1970

theorem act (h : Ran answer keys maxTasks s) {now : Moment} {e : Event ω}
    (tame : ∀ fx p, Tame answer ⟨now, e, s.proxy, fx, p⟩) :
    Ran answer keys maxTasks (s.act now e) := by
  obtain ⟨es, rfl⟩ := h.run
  refine ⟨⟨es ++ [(now, e)], (Scene.run_append _ es [(now, e)]).symm⟩, ?_⟩
  rcases ((Scene.start keys maxTasks).run es).act_cases now e with ⟨-, same⟩ | ⟨p, fx, -, -, acted⟩
  · rw [same]
    exact h.tame
  · rw [acted]
    intro t ht
    rcases List.mem_cons.1 ht with rfl | old
    · exact tame fx p
    · exact h.tame t old

end Ran

/-! ## What the store has of it -/

theorem mem_writesOf_eraseIdx {l : List (Effect ω)} {i : Nat} {x : Effect ω} {w : Write}
    (at_ : l[i]? = some x) (h : w ∈ writesOf l) :
    x.write? = some w ∨ w ∈ writesOf (l.eraseIdx i) := by
  obtain ⟨y, hy, write⟩ := List.mem_filterMap.1 h
  obtain ⟨j, there⟩ := List.mem_iff_getElem?.1 hy
  by_cases same : j = i
  · subst same
    rw [at_] at there
    cases there
    exact Or.inl write
  · exact Or.inr (List.mem_filterMap.2
      ⟨y, List.mem_eraseIdx_iff_getElem?.2 ⟨j, same, there⟩, write⟩)

/-- The store has been asked for what has begun. It has an entry for each of the writes that it has
carried out, and each entry is what one of them has put there. -/
structure Faithful (shelf : σ → Shelf) (answer : String → Outcome Fetched) (keys : KeyScheme)
    (maxTasks : Nat) (last : Moment) (d : Depot σ ω) : Prop where
  ran : Ran answer keys maxTasks d.scene
  replies : ∀ e ∈ d.replies, (∀ r, e ≠ .request r) ∧ ∀ id o, e ≠ .originAnswered id o
  orders : ∀ x ∈ d.orders, (∃ c key, x = .read c key) ∨
    ∃ t w, x = .write t w.storeKey w.value w.ttl ∧ w ∈ begun d.scene.past
  carried : ∀ w ∈ begun d.scene.past, w ∈ writesOf d.orders ∨
    ∃ e, shelf d.store w.storeKey = some e
  entries : ∀ key e, shelf d.store key = some e → e.isExpired last = false ∧
    ∃ w ∈ begun d.scene.past, w.storeKey = key ∧ e.content = .ok w.value

namespace Faithful

theorem tell (h : Faithful shelf answer keys maxTasks last d) {now : Moment} {e : Event ω}
    (tame : ∀ fx p, Tame answer ⟨now, e, d.proxy, fx, p⟩) :
    Faithful shelf answer keys maxTasks last (d.tell now e) := by
  have ran := h.ran.act tame
  rcases d.scene.act_cases now e with ⟨stuck, same⟩ | ⟨p, fx, moves, taken, acted⟩
  · have told : d.tell now e = { d with scene := d.scene.act now e } := by
      rw [Depot.tell, proxy, stuck, Option.elim_none, List.filter_nil, List.append_nil]
    rw [told]
    have past : (d.scene.act now e).past = d.scene.past := by rw [same]
    refine ⟨ran, h.replies, ?_, ?_, ?_⟩
    · rw [past]
      exact h.orders
    · rw [past]
      exact h.carried
    · rw [past]
      exact h.entries
  · have told : d.tell now e = { d with
        scene := d.scene.act now e
        orders := d.orders ++ fx.filter fun x => x.errand?.any Errand.forStore } := by
      rw [Depot.tell, proxy, moves, Option.elim_some]
    rw [told]
    have past : begun (d.scene.act now e).past = writesOf fx ++ begun d.scene.past := by
      rw [acted]
      rfl
    refine ⟨ran, h.replies, ?_, ?_, ?_⟩
    · rw [past]
      intro x hx
      rcases List.mem_append.1 hx with old | new
      · exact (h.orders x old).imp_right fun ⟨t, w, same, before⟩ =>
          ⟨t, w, same, List.mem_append_right _ before⟩
      · obtain ⟨here, store⟩ := List.mem_filter.1 new
        exact ((tame fx p).asks taken here store).imp_right fun ⟨t, w, same, begins⟩ =>
          ⟨t, w, same, List.mem_append_left _ begins⟩
    · rw [past]
      intro w hw
      rw [writesOf_append]
      rcases List.mem_append.1 hw with new | old
      · obtain ⟨x, hx, write⟩ := List.mem_filterMap.1 new
        refine Or.inl (List.mem_append_right _ (List.mem_filterMap.2
          ⟨x, List.mem_filter.2 ⟨hx, ?_⟩, write⟩))
        cases x with
        | write => rfl
        | wake | ask | read | delete | limit | log => cases write
      · exact (h.carried w old).imp_left fun waits => List.mem_append_left _ waits
    · rw [past]
      intro key e there
      obtain ⟨live, w, before, same⟩ := h.entries key e there
      exact ⟨live, w, List.mem_append_right _ before, same⟩

/-- The store has carried out an order, and answers. -/
theorem reply (h : Faithful shelf answer keys maxTasks last d) {i : Nat} {e : Event ω} {store : σ}
    (no_request : ∀ r, e ≠ .request r) (no_answer : ∀ id o, e ≠ .originAnswered id o)
    (carried : ∀ w ∈ begun d.scene.past, w ∈ writesOf (d.orders.eraseIdx i) ∨
      ∃ e, shelf store w.storeKey = some e)
    (entries : ∀ key e, shelf store key = some e → e.isExpired last = false ∧
      ∃ w ∈ begun d.scene.past, w.storeKey = key ∧ e.content = .ok w.value) :
    Faithful shelf answer keys maxTasks last
      { d with store := store, orders := d.orders.eraseIdx i, replies := d.replies ++ [e] } where
  ran := h.ran
  replies e' he := by
    rcases List.mem_append.1 he with old | new
    · exact h.replies e' old
    · rw [List.mem_singleton.1 new]
      exact ⟨no_request, no_answer⟩
  orders y hy := h.orders y (List.mem_of_mem_eraseIdx hy)
  carried := carried
  entries := entries

theorem carry (h : Faithful shelf answer keys maxTasks last d) (reliable : k.Reliable shelf)
    {c : Clocks} {i : Nat} (lenient : Lenient k answer last d ((c, .carry i) :: ms))
    {x : Effect ω} {e : Event ω} {store : σ} (at_ : d.orders[i]? = some x)
    (carried : k.carryOut c.monotonic d.store x = some (e, store)) :
    Faithful shelf answer keys maxTasks last
      { d with store := store, orders := d.orders.eraseIdx i, replies := d.replies ++ [e] } := by
  rcases h.orders x (List.mem_of_getElem? at_) with ⟨caller, key, rfl⟩ | ⟨t, w, rfl, begins⟩
  · obtain ⟨rfl, rfl⟩ := Prod.mk.inj (Option.some.inj carried)
    -- Nothing has expired, so the read leaves everything as it is.
    have same : shelf (k.read c.monotonic key d.store).2 = shelf d.store := by
      refine reliable.read c.monotonic key d.store fun e there => ?_
      refine Bool.eq_false_iff.2 fun old => ?_
      have live := (h.entries key e there).1
      rw [Timed.isExpired_of_le old (lenient.upTo _ List.mem_cons_self)] at live
      cases live
    refine h.reply nofun nofun ?_ ?_
    · intro w hw
      rw [same]
      refine (h.carried w hw).imp_left fun waits => ?_
      exact (mem_writesOf_eraseIdx at_ waits).resolve_left (by simp [Effect.write?])
    · rw [same]
      exact h.entries
  · obtain ⟨deadline, ends, later⟩ := lenient.of_carry at_
    have put := h.ran.put_of_begun lenient.fits begins reliable d.store ends
    obtain ⟨rfl, rfl⟩ := Prod.mk.inj (Option.some.inj carried)
    refine h.reply nofun nofun ?_ ?_
    · intro v hv
      rw [put]
      by_cases same : v.storeKey = w.storeKey
      · rw [same, Function.update_self]
        exact Or.inr ⟨_, rfl⟩
      · rw [Function.update_of_ne same]
        refine (h.carried v hv).imp_left fun waits => ?_
        refine (mem_writesOf_eraseIdx at_ waits).resolve_left fun own => ?_
        exact same (congrArg Write.storeKey (Option.some.inj own)).symm
    · intro key e there
      rw [put] at there
      by_cases same : key = w.storeKey
      · rw [same, Function.update_self] at there
        cases there
        refine ⟨?_, w, begins, same.symm, rfl⟩
        simp only [Timed.isExpired, Option.any_some, decide_eq_false_iff_not]
        exact fun reached => reached later
      · rw [Function.update_of_ne same] at there
        exact h.entries key e there

end Faithful

theorem tame_of_event? {now : Moment} (since1970 : 0 ≤ now.seconds) {m : Move ω} {p : Proxy ω}
    {e : Event ω} (event : m.event? answer p = some e) (fx : List (Effect ω)) (p' : Proxy ω) :
    Tame answer ⟨now, e, p, fx, p'⟩ := by
  cases m with
  | call policy key origin =>
    cases event
    exact ⟨since1970, fun r same => Or.inr ⟨policy, key, origin, (Event.request.inj same).symm⟩,
      nofun⟩
  | drain =>
    cases event
    exact ⟨since1970, fun r same => Or.inl (Event.request.inj same).symm, nofun⟩
  | supply id =>
    obtain ⟨f, at_, rfl⟩ := Option.map_eq_some_iff.1 event
    refine ⟨since1970, nofun, fun i o same => ?_⟩
    cases same
    exact ⟨f, at_, rfl⟩
  | turn | tooLong | untimeable | leave =>
    cases event
    exact ⟨since1970, nofun, nofun⟩
  | carry | report => cases event

theorem Faithful.act (h : Faithful shelf answer keys maxTasks last d) (reliable : k.Reliable shelf)
    {m : Clocks × Move ω} (lenient : Lenient k answer last d (m :: ms)) :
    Faithful shelf answer keys maxTasks last (act k answer d m.1 m.2) := by
  obtain ⟨c, m⟩ := m
  have since1970 : 0 ≤ c.wall.seconds := lenient.since1970 _ List.mem_cons_self
  rcases act_cases k answer d c m with ⟨e, event, acted⟩ |
    ⟨i, x, e, store, rfl, at_, carried, acted⟩ | ⟨i, e, at_, acted⟩ | same
  · rw [acted]
    exact h.tell (tame_of_event? since1970 event)
  · rw [acted]
    exact h.carry reliable lenient at_ carried
  · rw [acted]
    obtain ⟨no_request, no_answer⟩ := h.replies e (List.mem_of_getElem? at_)
    have told := h.tell fun fx p => (⟨since1970, fun r same => absurd same (no_request r),
      fun id o same => absurd same (no_answer id o)⟩ : Tame answer ⟨c.wall, e, d.proxy, fx, p⟩)
    exact { told with replies := fun e' he => h.replies e' (List.mem_of_mem_eraseIdx he) }
  · rw [same]
    exact h

theorem Faithful.run (h : Faithful shelf answer keys maxTasks last d) (reliable : k.Reliable shelf)
    (lenient : Lenient k answer last d ms) :
    Faithful shelf answer keys maxTasks last (run k answer d ms) := by
  induction ms generalizing d with
  | nil => exact h
  | cons m ms ih => exact ih (h.act reliable lenient) lenient.tail

theorem Faithful.start (keys : KeyScheme) (maxTasks : Nat) {store : σ}
    (cold : ∀ key, shelf store key = none) :
    Faithful shelf answer keys maxTasks last (start keys maxTasks store : Depot σ ω) where
  ran := ⟨⟨[], rfl⟩, fun t ht => by cases ht⟩
  replies e he := by cases he
  orders x hx := by cases hx
  carried w hw := by cases hw
  entries key e there := by
    change shelf store key = some e at there
    rw [cold key] at there
    cases there

/-- The store holds what the origin has for the keys that have been reached, and nothing else. -/
structure Converged (shelf : σ → Shelf) (answer : String → Outcome Fetched) (keys : KeyScheme)
    (last : Moment) (d : Depot σ ω) : Prop where
  filled : ∀ key a, Reached d.scene.past key → answer key = .ok a → ∃ v deadline,
    (shelf d.store).live? last (keys.build key) = some ⟨.ok v, deadline⟩ ∧
      v.payload = a.payload ∧ v.volatile = a.volatile ∧ v.absent = false
  failed : ∀ key, Reached d.scene.past key → (∀ a, answer key ≠ .ok a) →
    shelf d.store (keys.build key) = none
  other : ∀ storeKey, (∀ key, Reached d.scene.past key → keys.build key ≠ storeKey) →
    shelf d.store storeKey = none

/-- **A cold cache has one thing to come to.** Whatever is called and in whatever order things
happen, if the origin has one outcome for each key and nothing expires, then as soon as no fetch
is under way and no write is outstanding, the store holds for each key that has been reached the
payload and the mark that the origin has for it, or nothing if the origin has only failed; and it
holds nothing under any other key. -/
theorem cold_cache_confluent (k : Keeper σ) (shelf : σ → Shelf) (reliable : k.Reliable shelf)
    (store : σ) (cold : ∀ key, shelf store key = none) (answer : String → Outcome Fetched)
    (keys : KeyScheme) (maxTasks : Nat) (last : Moment) (ms : List (Clocks × Move ω))
    (lenient : Lenient k answer last (start keys maxTasks store) ms) :
    let d := run k answer (start keys maxTasks store) ms
    d.proxy.underWay = 0 → d.proxy.queued = [] → writesOf d.orders = [] →
      Converged shelf answer keys last d := by
  intro d landed none_waits none_ordered
  have h : Faithful shelf answer keys maxTasks last d :=
    (Faithful.start keys maxTasks cold).run reliable lenient
  -- An entry tells of its cause, and so of an outcome with a value, for a key that was reached.
  have source : ∀ storeKey e, shelf d.store storeKey = some e → e.isExpired last = false ∧
      ∃ c : Cause, keys.build c.key = storeKey ∧ e.content = .ok (c.write keys).value ∧
        answer c.key = .ok ⟨c.payload, c.volatile⟩ ∧ Reached d.scene.past c.key := by
    intro storeKey e there
    obtain ⟨live, w, begins, rfl, content⟩ := h.entries storeKey e there
    obtain ⟨c, hc, rfl⟩ := h.ran.cause_of_begun begins
    obtain ⟨value, -, reached, -⟩ := h.ran.cause hc
    exact ⟨live, c, rfl, content, value, reached⟩
  have nothing : ∀ storeKey, (∀ key a, Reached d.scene.past key → answer key = .ok a →
      keys.build key ≠ storeKey) → shelf d.store storeKey = none := by
    intro storeKey apart
    cases there : shelf d.store storeKey with
    | none => rfl
    | some e =>
      obtain ⟨-, c, same, -, value, reached⟩ := source storeKey e there
      exact absurd same (apart c.key _ reached value)
  constructor
  case filled =>
    intro key a reached value
    obtain ⟨w, begins, named⟩ := h.ran.begun_of_reached landed none_waits reached value
    rcases h.carried w begins with waits | ⟨e, there⟩
    · rw [none_ordered] at waits
      cases waits
    · rw [named] at there
      obtain ⟨live, c, same, content, own, -⟩ := source _ e there
      rw [keys.build_inj.1 same, value] at own
      cases own
      refine ⟨(c.write keys).value, e.deadline, ?_, rfl, rfl, rfl⟩
      rw [Shelf.live?, there, Option.filter_some, if_pos (by rw [live]; rfl), ← content]
  case failed =>
    intro key reached bad
    refine nothing _ fun other a _ value same => ?_
    rw [keys.build_inj.1 same] at value
    exact bad a value
  case other => exact fun storeKey apart => nothing storeKey fun key a reached _ => apart key reached

/-! ## One such run -/

/-- One key that the origin has, and others that it fails for. -/
def outcome (key : String) : Outcome Fetched :=
  if key = "a" then .ok ⟨"1", true⟩ else .failed (.origin "down")

def insistent : Policy := { Policy.default with force := true }

/-- A miss leads a fetch, and leaves. A forced lookup joins it and writes for itself, and its write
overtakes that of the fetch. Another fetch fails. -/
def mixed : List (Clocks × Move Unit) :=
  [.call .default "a" (), .carry 0, .report 0, .call insistent "a" (), .call .default "b" (),
    .carry 0, .report 0, .turn (.fetch 0), .turn (.fetch 1), .leave 0, .supply 0, .supply 1,
    .turn (.job 0), .turn (.caller 1), .turn (.save 0), .carry 1, .carry 0].map
      fun m => (⟨.epoch, .epoch⟩, m)

/-- The store in memory, and what it comes to. -/
def settled : Depot ByteMap Unit :=
  run ByteMap.keeper outcome (start ⟨some "n"⟩ 1 Table.empty) mixed

theorem lenient_mixed :
    Lenient ByteMap.keeper outcome .epoch (start ⟨some "n"⟩ 1 Table.empty) mixed where
  since1970 := by decide
  upTo := by decide
  lives := by
    have two : deadlines ByteMap.keeper outcome (start ⟨some "n"⟩ 1 Table.empty) mixed =
        List.replicate 2 (Moment.epoch.add? (.ofSeconds 86400)) := rfl
    rw [two]
    intro x hx
    exact ⟨_, List.eq_of_mem_replicate hx, by decide⟩
  fits key a ok := by
    unfold outcome at ok
    split at ok <;> cases ok
    decide

theorem cold_cache_confluent_mixed :
    Converged Shelf.ofBytes outcome ⟨some "n"⟩ .epoch settled ∧ settled.store.size = 1 ∧
      ∃ v deadline, (Shelf.ofBytes settled.store).live? .epoch "n:a" = some ⟨.ok v, deadline⟩ ∧
        v.payload = "1" ∧ v.volatile = true ∧ v.absent = false := by
  have landed : settled.proxy.underWay = 0 := by decide
  have none_waits : settled.proxy.queued = [] := by decide
  have none_ordered : writesOf settled.orders = [] := by decide
  have converged : Converged Shelf.ofBytes outcome ⟨some "n"⟩ .epoch settled :=
    cold_cache_confluent ByteMap.keeper Shelf.ofBytes ByteMap.reliable Table.empty (fun _ => rfl)
      outcome ⟨some "n"⟩ 1 .epoch mixed lenient_mixed landed none_waits none_ordered
  have led : leader? settled.scene.past 0 = some ⟨.missed, .default, "a", ()⟩ := rfl
  exact ⟨converged, by decide, converged.filled "a" _ (reached_of_leader? led) rfl⟩

end Depot

end ReadThrough
