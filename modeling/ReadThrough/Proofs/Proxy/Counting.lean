import ReadThrough.Proofs.Proxy.Lasting

/-!
# What the counts of a proxy count

A proxy shows two numbers to whoever watches it. One is the keys with a fetch under way, and as a
key has one fetch at most, it is also the fetches under way. The other is the pending work: the
jobs of the pool that have not ended, and the fetches under way whose leader was answered, or
will be, before the write (`Scene.refills`). Who leads a fetch is read off the history, so
neither number is explained by another number that the proxy keeps.

Both are exact between any two turns. It follows what a turn can do to the pending count, which
is the second half of this module: it rises by one for a fetch that is led and not for one that is
joined, it stays where it is when a fetch hands its write over to a job, and whatever goes wrong
takes away exactly what it had brought.
-/

set_option autoImplicit false

namespace ReadThrough

/-! ## The pool counts down -/

namespace Pool

variable {β : Type} {p p' : Pool β}

theorem pending_lower (more : 0 < p.pending) : p.lower.1.pending + 1 = p.pending := by
  unfold lower
  split
  case isTrue one => exact one.symm
  case isFalse =>
    show p.pending - 1 + 1 = p.pending
    omega

theorem waiters_lower (more : p.pending ≠ 1) : p.lower.1.waiters = p.waiters := by
  unfold lower
  rw [if_neg more]

theorem Balanced.pending_pos (h : p.Balanced) {guard : Nat} (out : guard ∈ p.guards) :
    0 < p.pending := by
  have sum := h.tally.sum
  have some_out : 0 < p.guards.length := List.length_pos_of_mem out
  omega

theorem pending_giveBack (h : p.Balanced) {guard : Nat} (out : guard ∈ p.guards) :
    (p.giveBack guard).1.pending + 1 = p.pending := by
  unfold giveBack
  rw [if_pos out]
  exact pending_lower (p := { p with guards := p.guards.erase guard }) (h.pending_pos out)

theorem waiters_giveBack {guard : Nat} (more : p.pending ≠ 1) :
    (p.giveBack guard).1.waiters = p.waiters := by
  unfold giveBack
  split
  case isTrue out => exact waiters_lower (p := { p with guards := p.guards.erase guard }) more
  case isFalse => rfl

/-- A guard that is given back at once has made no difference to the count. -/
theorem pending_track_giveBack (h : p.Balanced) :
    (p.track.1.giveBack p.nextGuard).1.pending = p.pending :=
  Nat.succ.inj (pending_giveBack h.track List.mem_cons_self)

theorem pending_finish? (h : p.Balanced) {id : Nat} {wakes : List Wake}
    (e : p.finish? id = some (p', wakes)) : p'.pending + 1 = p.pending := by
  obtain ⟨running, rfl, -⟩ := finish?_eq_some_iff.1 e
  have sum := (h.retire running).2.sum
  have more : 0 < p.pending := by
    show 0 < (p.setStage id .ended).pending
    omega
  exact (pending_lower (by rw [pending_handOn]; exact more)).trans (pending_handOn _)

end Pool

/-! ## Fetches under way -/

namespace Coalescer

variable {σ : Type} {c : Coalescer σ}

/-- The keys of the fetches that are not over. -/
def keysUnderWay (c : Coalescer σ) : List String :=
  (c.fetches.filter (·.stage.isAlive)).map Fetch.key

theorem mem_keysUnderWay {key : String} : key ∈ c.keysUnderWay ↔ ∃ id, c.IsAlive id key := by
  unfold keysUnderWay IsAlive
  constructor
  · intro h
    obtain ⟨f, hf, rfl⟩ := List.mem_map.1 h
    obtain ⟨hf, alive⟩ := List.mem_filter.1 hf
    obtain ⟨id, at_⟩ := List.mem_iff_getElem?.1 hf
    exact ⟨id, f, at_, rfl, alive⟩
  · rintro ⟨id, f, at_, rfl, alive⟩
    exact List.mem_map.2 ⟨f, List.mem_filter.2 ⟨List.mem_of_getElem? at_, alive⟩, rfl⟩

theorem Sound.nodup_keysUnderWay (h : c.Sound) : c.keysUnderWay.Nodup := by
  unfold keysUnderWay List.Nodup
  rw [List.pairwise_map, List.pairwise_filter, List.pairwise_iff_getElem]
  intro i j hi hj lt alive alive' same
  have one : c.IsAlive i c.fetches[i].key :=
    ⟨_, List.getElem?_eq_getElem hi, rfl, alive⟩
  have other : c.IsAlive j c.fetches[i].key :=
    ⟨_, List.getElem?_eq_getElem hj, same.symm, alive'⟩
  exact Nat.ne_of_lt lt (h.alive_unique one other)

/-- The table has the keys of the fetches under way, and no other. -/
theorem Sound.keys_perm (h : c.Sound) :
    (c.inFlight.entries.map (·.1)).Perm c.keysUnderWay := by
  refine (List.perm_ext_iff_of_nodup c.inFlight.nodup h.nodup_keysUnderWay).2 fun key => ?_
  rw [mem_keysUnderWay]
  constructor
  · intro named
    obtain ⟨⟨k, id⟩, hm, rfl⟩ := List.mem_map.1 named
    exact ⟨id, (h k id).1 ((Table.get?_eq_some_iff ..).2 hm)⟩
  · rintro ⟨id, alive⟩
    exact List.mem_map.2 ⟨(key, id), (Table.get?_eq_some_iff ..).1 ((h key id).2 alive), rfl⟩

theorem Sound.underWay_eq (h : c.Sound) : c.underWay = c.keysUnderWay.length := by
  rw [← h.keys_perm.length_eq, List.length_map]
  rfl

/-- When nothing is under way, every fetch has its result. -/
theorem Sound.exists_result? (h : c.Sound) (landed : c.underWay = 0) {id : Nat} {f : Fetch σ}
    (at_ : c.fetches[id]? = some f) : ∃ r, c.result? id = some r := by
  cases stage : f.stage with
  | ended r => exact ⟨r, result?_eq_some_iff.2 ⟨f, at_, stage⟩⟩
  | queued | asking | storing =>
    have alive := mem_keysUnderWay.2 ⟨id, f, at_, rfl, by rw [stage]; rfl⟩
    rw [List.length_eq_zero_iff.1 (h.underWay_eq.symm.trans landed)] at alive
    cases alive

end Coalescer

/-! ## What a step does to the pending count -/

/-- How much of the pending count a task that writes stands for. -/
def Task.units : Task → Nat
  | .job _ => 1
  | .caller _ | .fetch _ | .save _ => 0

namespace Proxy

variable {ω : Type} {now : Moment} {p p' : Proxy ω} {e : Event ω} {fx : List (Effect ω)}

/-- The pool has the guard of every fetch under way that has one. -/
theorem Sane.guard_out (h : p.Sane) {id guard : Nat} {f : Fetch (Plan ω)}
    (at_ : p.fetches.fetches[id]? = some f) (alive : f.stage.isAlive = true)
    (kept : f.plan.after.guard? = some guard) : guard ∈ p.pool.guards :=
  h.guards.mem_iff.2 (List.mem_filterMap.2
    ⟨f, List.mem_of_getElem? at_, by rw [Fetch.guard?, if_pos alive]; exact kept⟩)

theorem Boards.pending {policy : Policy} {key : String} {origin : ω} {guarded : Bool}
    {p₁ : Proxy ω} {flight : Flight} (b : p.Boards policy key origin guarded p₁ flight fx)
    (sane : p.Sane) :
    p₁.pending = p.pending + if guarded && !p.fetches.isUnderWay key then 1 else 0 := by
  cases b with
  | leadThrough free | joinThrough id taken => rfl
  | leadBack free =>
    simp only [Coalescer.isUnderWay, free]
    rfl
  | joinBack id taken =>
    simp only [Coalescer.isUnderWay, taken]
    exact Pool.pending_track_giveBack sane.balanced

/-- A call that wants a fetch comes to a flight; if the store had something for it, a job of its
own waits for the fetch besides. -/
theorem Step.of_wish? (step : p.Step now e fx p') {w : Wish ω} (wished : p.wish? now e = some w) :
    ∃ p₁ flight gx,
      p.Boards w.policy w.key w.origin (decide (w.role ≠ .forced)) p₁ flight gx ∧
      p'.fetches = p₁.fetches ∧ p'.pool = if w.role = .stale then
        (p₁.pool.spawn (.refresh (p.keys.build w.key) flight.fetch)).1 else p₁.pool := by
  rcases wish?_cases wished with ⟨role, rfl, forced, some_key⟩ | ⟨c, o, rfl, at_, why⟩
  · rw [role]
    cases step with
    | arrive r fx s how =>
      cases how with
      | vacuous r a blank => exact absurd (Option.some.inj blank) some_key
      | read policy key origin some_key gentle =>
        rw [forced] at gentle
        cases gentle
    | force policy key origin p₁ flight fx some_key forced how =>
      exact ⟨p₁, flight, fx, how, rfl, rfl⟩
    | settle d x e fx s at_ how =>
      cases how with
      | told policy key origin flight r e looks => rcases looks with e | e <;> cases e
    | again d policy key origin flight a e at_ looks => rcases looks with e | e <;> cases e
    | endJob j work e r pool₁ wakes at_ how => cases how
  · cases step with
    | settle d x e fx s here how =>
      cases how with
      | unread policy key origin r bad => exact absurd rfl (bad o)
      | hit policy key origin v live still =>
        rw [at_] at here
        cases here
        rcases why with ⟨-, missing⟩ | ⟨-, v', same, -, old⟩
        · rw [missing v rfl] at live
          cases live
        · cases same
          rw [old] at still
          cases still
      | told policy key origin flight r e looks => rcases looks with e | e <;> cases e
    | miss d policy key origin o p₁ flight fx here missing how =>
      rw [at_] at here
      cases here
      rcases why with ⟨role, -⟩ | ⟨-, v, rfl, live, -⟩
      · rw [role]
        exact ⟨p₁, flight, fx, how, rfl, rfl⟩
      · rw [missing v rfl] at live
        cases live
    | stale d policy key origin v p₁ flight fx here live old how =>
      rw [at_] at here
      cases here
      rcases why with ⟨-, missing⟩ | ⟨role, -⟩
      · rw [missing v rfl] at live
        cases live
      · rw [role]
        exact ⟨p₁, flight, fx, how, rfl, rfl⟩
    | again d policy key origin flight a e at_ looks => rcases looks with e | e <;> cases e
    | endJob j work e r pool₁ wakes at_ how => cases how

/-- A call counts if it leads a fetch whose write comes later. One that joins does not, but for a
refresh of its own. -/
theorem Step.pending_of_wish? (sane : p.Sane) (step : p.Step now e fx p') {w : Wish ω}
    (wished : p.wish? now e = some w) :
    p'.pending = p.pending +
      (if w.role ≠ .forced ∧ p.fetches.isUnderWay w.key = false then 1 else 0) +
      if w.role = .stale then 1 else 0 := by
  obtain ⟨p₁, flight, gx, how, -, pool⟩ := step.of_wish? wished
  have led := how.pending sane
  simp only [Bool.and_eq_true, decide_eq_true_eq, Bool.not_eq_true'] at led
  rw [← led]
  unfold Proxy.pending
  rw [pool]
  split <;> rfl

/-- Where the write comes later, a fetch hands its unit over to the job that writes, and the count
does not fall in between. -/
theorem Step.handsOver (sane : p.Sane) {id : Nat} {a : Fetched} {f : Fetch (Plan ω)}
    (step : p.Step now (.originAnswered id (.ok a)) fx p')
    (at_ : p.fetches.fetches[id]? = some f) (kept : f.plan.after.guard? ≠ none) :
    p'.pool.jobs = p.pool.jobs ++ [⟨.writeBack f.plan.after.storeKey (a.stamp now)
      (f.plan.after.policy.ttlFor a.payload), .spawned⟩] ∧
    0 < p.pending ∧ p'.pending = p.pending ∧ p'.pool.waiters = p.pool.waiters := by
  obtain ⟨g, here, asking, how⟩ := step.of_originAnswered
  rw [at_] at here
  cases here
  rcases how with ⟨b, -, bare, -⟩ | ⟨b, guard, same, guarded, pool⟩ | ⟨bad, -⟩
  · exact absurd bare kept
  · cases same
    have out := sane.guard_out at_ (by rw [asking]; rfl) guarded
    have more : 0 < p.pool.pending := sane.balanced.pending_pos out
    unfold Proxy.pending
    rw [pool]
    -- The job counts before the guard is back, so nobody is told of a count that is zero.
    refine ⟨Pool.giveBack_jobs _ _, more, Nat.succ.inj ?_, Pool.waiters_giveBack ?_⟩
    · exact Pool.pending_giveBack (sane.balanced.spawn _) out
    · show p.pool.pending + 1 ≠ 1
      omega
  · exact absurd rfl (bad a)

/-- A fetch whose origin has failed takes away what it had brought. -/
theorem Step.pending_of_failed (sane : p.Sane) {id : Nat} {o : Outcome Fetched}
    {f : Fetch (Plan ω)} (step : p.Step now (.originAnswered id o) fx p')
    (bad : ∀ a, o ≠ .ok a) (at_ : p.fetches.fetches[id]? = some f) :
    p'.pending + (if f.plan.after.guard? = none then 0 else 1) = p.pending := by
  obtain ⟨g, here, asking, how⟩ := step.of_originAnswered
  rw [at_] at here
  cases here
  rcases how with ⟨a, ok, -⟩ | ⟨a, guard, ok, -⟩ | ⟨-, pool⟩
  · exact absurd ok (bad a)
  · exact absurd ok (bad a)
  · unfold Proxy.pending
    rw [pool]
    cases guarded : f.plan.after.guard? with
    | none => rfl
    | some guard =>
      exact Pool.pending_giveBack sane.balanced (sane.guard_out at_ (by rw [asking]; rfl) guarded)

/-- A write that has been answered, well or badly, ends a job if it was the write of a job. -/
theorem Step.pending_of_writeAnswered (sane : p.Sane) {task : Task} {r : Outcome Unit}
    (step : p.Step now (.writeAnswered task r) fx p') :
    p'.pending + task.units = p.pending := by
  cases step with
  | settle d x e fx s here how =>
    cases how with
    | told policy key origin flight r e looks => rcases looks with e | e <;> cases e
    | written q r => rfl
  | again d policy key origin flight a e here looks => rcases looks with e | e <;> cases e
  | stored id f a r at_ stage => rfl
  | saved s x r at_ stage => rfl
  | endJob j work e r pool₁ wakes here how finished =>
    cases how with
    | wroteBack storeKey v ttl r =>
      exact Pool.pending_finish? sane.balanced finished

/-- Nothing else takes a guard or gives one back. -/
theorem Step.guards_of_rest (step : p.Step now e fx p') (unwished : p.wish? now e = none)
    (asked : ∀ id o, e ≠ .originAnswered id o) : p'.pool.guards = p.pool.guards := by
  cases step with
  | force policy key origin p₁ flight fx some_key forced how =>
    simp [wish?, forced, some_key] at unwished
  | miss c policy key origin o p₁ flight fx at_ missing how =>
    cases o with
    | none => simp [wish?, at_] at unwished
    | some v => simp [wish?, at_, missing v rfl] at unwished
  | stale c policy key origin v p₁ flight fx at_ live old how =>
    simp only [Bool.and_eq_true] at old
    simp [wish?, at_, live, old] at unwished
  | store id | passOn id | failThrough id | failBack id => exact absurd rfl (asked id _)
  | queue j pool₁ resumed | write j pool₁ storeKey v ttl resumed | await j pool₁ _ _ resumed =>
    exact (Pool.resume?_cases resumed).2.2.1
  | skip j pool₁ pool₂ storeKey f r wakes resumed at_ known finished =>
    exact (Pool.guards_finish? finished).trans (Pool.resume?_cases resumed).2.2.1
  | endJob j work e r pool₁ wakes at_ how finished => exact Pool.guards_finish? finished
  | arrive | drain | settle | again | drained | parks | leaveDrain | ask | stored | save | saved =>
    rfl

end Proxy

/-! ## Over a run -/

namespace Scene

variable {ω : Type}

/-- The fetches under way that a miss or a stale entry has led to. -/
def refills (s : Scene ω) : Nat :=
  s.proxy.fetches.fetches.zipIdx.countP fun x =>
    x.1.stage.isAlive && (leader? s.past x.2).any fun w => w.role == .missed || w.role == .stale

theorem Marked.refills_eq {s : Scene ω} (h : s.Marked) :
    s.refills = s.proxy.fetches.fetches.countP fun f => f.guard?.isSome := by
  calc s.refills
      = s.proxy.fetches.fetches.zipIdx.countP fun x => x.1.guard?.isSome := by
        refine List.countP_congr fun ⟨f, id⟩ hx => ?_
        obtain ⟨w, led, role⟩ := h id f (List.mem_zipIdx_iff_getElem?.1 hx)
        cases alive : f.stage.isAlive with
        | false => simp [Fetch.guard?, alive]
        | true =>
          cases hr : w.role <;>
            simp [Fetch.guard?, alive, led, hr, Option.isSome_iff_ne_none, role]
    _ = (s.proxy.fetches.fetches.zipIdx.map Prod.fst).countP fun f => f.guard?.isSome :=
        by rw [List.countP_map]; rfl
    _ = s.proxy.fetches.fetches.countP fun f => f.guard?.isSome := by rw [List.zipIdx_map_fst]

/-- What a proxy counts is there, and each turn adds and takes what it should. -/
structure Counted (keys : KeyScheme) (s : Scene ω) : Prop where
  /-- Pending are the jobs that have not ended, and the fetches under way whose write comes
  later. -/
  pending : s.proxy.pending = s.proxy.pool.unfinished + s.refills
  /-- The keys with a fetch under way are counted, and each has one. -/
  underWay : s.proxy.underWay = s.proxy.fetches.keysUnderWay.length
  single : s.proxy.fetches.keysUnderWay.Nodup
  /-- A call that comes to a flight adds one if it leads and has not to wait for the write; and one
  more if it refreshes an entry. -/
  boarded : ∀ t ∈ s.past, ∀ w, t.before.wish? t.now t.event = some w →
    t.after.pending = t.before.pending +
      (if w.role ≠ .forced ∧ t.before.fetches.isUnderWay w.key = false then 1 else 0) +
      if w.role = .stale then 1 else 0
  /-- Where the write comes later, a job for it takes the place of a fetch that has its answer.
  The count is the same, it is not zero, and nobody who waits for that has been told so. -/
  handedOver : ∀ t ∈ s.past, ∀ id a w, t.event = .originAnswered id (.ok a) →
    leader? s.past id = some w → w.role ≠ .forced →
    t.after.pool.jobs = t.before.pool.jobs ++
      [⟨.writeBack (keys.build w.key) (a.stamp t.now) (w.policy.ttlFor a.payload), .spawned⟩] ∧
    0 < t.before.pending ∧ t.after.pending = t.before.pending ∧
      t.after.pool.waiters = t.before.pool.waiters
  /-- A fetch whose origin has failed or crashed takes back what its leader had added. -/
  failed : ∀ t ∈ s.past, ∀ id o w, t.event = .originAnswered id o → (∀ a, o ≠ .ok a) →
    leader? s.past id = some w →
    t.after.pending + (if w.role = .forced then 0 else 1) = t.before.pending
  /-- So does a job whose write is over, also if it has failed or crashed. The other writes have
  not been counted. -/
  written : ∀ t ∈ s.past, ∀ task r, t.event = .writeAnswered task r →
    t.after.pending + task.units = t.before.pending
  /-- In every other turn the count changes as the jobs do. -/
  rest : ∀ t ∈ s.past, t.before.wish? t.now t.event = none →
    (∀ id o, t.event ≠ .originAnswered id o) →
    t.after.pending + t.before.pool.unfinished = t.before.pending + t.after.pool.unfinished

/-- What the history says of a fetch now, it says of the fetch as it was at any turn. -/
theorem plan_run (keys : KeyScheme) (maxTasks : Nat) (es : List (Moment × Event ω)) {t : Turn ω}
    (ht : t ∈ ((start keys maxTasks).run es).past) {id : Nat} {f : Fetch (Plan ω)} {w : Wish ω}
    (at_ : t.before.fetches.fetches[id]? = some f)
    (led : leader? ((start keys maxTasks).run es).past id = some w) :
    (f.plan.after.guard? = none ↔ w.role = .forced) ∧ f.plan.after.policy = w.policy ∧
      f.plan.after.storeKey = keys.build w.key := by
  have trail := trail_run keys maxTasks es
  obtain ⟨g, hg, -, plan⟩ :=
    trail.lasts_since (Proxy.lasting_fetch id f.key f.plan) ht ⟨f, at_, rfl, rfl⟩
  obtain ⟨v, hv, role⟩ := marked_run keys maxTasks es id g hg
  obtain ⟨u, hu, suits⟩ := (documented_run keys maxTasks es id g hg).led
  obtain rfl : v = w := Option.some.inj (hv.symm.trans led)
  obtain rfl : u = v := Option.some.inj (hu.symm.trans hv)
  have scheme : ((start keys maxTasks).run es).proxy.keys = keys :=
    (trail.throughout (Proxy.lasting_keys keys) rfl).1
  rw [← plan, ← scheme]
  exact ⟨role, suits.policy, suits.storeKey⟩

/-- **The counts are exact.** In every state that a run comes to, the pending count is the jobs
that have not ended and the fetches under way that a miss or a stale entry has led to, and the
fetches under way are counted by their keys. -/
theorem counts_are_exact (keys : KeyScheme) (maxTasks : Nat) (es : List (Moment × Event ω)) :
    ((start keys maxTasks).run es).Counted keys := by
  have trail := trail_run keys maxTasks es
  have sane := sane_run keys maxTasks es
  have marked := marked_run keys maxTasks es
  have there : ∀ {t id o}, t ∈ ((start keys maxTasks).run es).past →
      t.event = .originAnswered id o → ∃ f, t.before.fetches.fetches[id]? = some f := by
    intro t id o ht event
    have step := (trail.of_mem ht).2
    rw [event] at step
    obtain ⟨f, at_, -⟩ := step.of_originAnswered
    exact ⟨f, at_⟩
  constructor
  case pending =>
    have sum := sane.balanced.tally.sum
    have guards := sane.guards.length_eq
    rw [List.length_filterMap_eq_countP, ← marked.refills_eq] at guards
    unfold Proxy.pending
    omega
  case underWay => exact sane.sound.underWay_eq
  case single => exact sane.sound.nodup_keysUnderWay
  case boarded =>
    intro t ht w wished
    obtain ⟨sane, step⟩ := trail.of_mem ht
    exact step.pending_of_wish? sane wished
  case handedOver =>
    intro t ht id a w event hw role
    obtain ⟨sane, step⟩ := trail.of_mem ht
    obtain ⟨f, at_⟩ := there ht event
    obtain ⟨guarded, policy, storeKey⟩ := plan_run keys maxTasks es ht at_ hw
    rw [event] at step
    rw [← policy, ← storeKey]
    exact step.handsOver sane at_ fun bare => role (guarded.1 bare)
  case failed =>
    intro t ht id o w event bad hw
    obtain ⟨sane, step⟩ := trail.of_mem ht
    obtain ⟨f, at_⟩ := there ht event
    rw [event] at step
    simp only [← (plan_run keys maxTasks es ht at_ hw).1]
    exact step.pending_of_failed sane bad at_
  case written =>
    intro t ht task r event
    obtain ⟨sane, step⟩ := trail.of_mem ht
    rw [event] at step
    exact step.pending_of_writeAnswered sane
  case rest =>
    intro t ht unwished asked
    obtain ⟨sane, step⟩ := trail.of_mem ht
    have before := sane.balanced.tally.sum
    have after := (sane.step step).balanced.tally.sum
    rw [step.guards_of_rest unwished asked] at after
    show t.after.pool.pending + _ = t.before.pool.pending + _
    omega

end Scene

end ReadThrough
