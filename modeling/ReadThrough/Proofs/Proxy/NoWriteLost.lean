import ReadThrough.Proofs.Proxy.Writes

/-!
# No write is lost, doubled or malformed

Over a whole run, the writes that have begun and those that still wait are, one for one, the
writes that the history gives cause for (`no_write_lost`). A caller that sets a value under a key
that is not empty is a cause; so is every answer that an origin gives to a fetch; and so is every
forced lookup that gets such an answer from a fetch that it joined. Nothing else is: not a fetch
that fails or crashes, and not a lookup that joined and was not forced.

What a cause asks to be written is said by `Cause.write`, and where its parts come from by
`Sourced`. Four places in a proxy make writes, each in a way of its own; the theorem says that
the four agree.
-/

set_option autoImplicit false

namespace ReadThrough

section History

variable {ω : Type} {past : List (Turn ω)}

/-- The causes for a write that a history has, the latest in front. -/
def causes : List (Turn ω) → List Cause
  | [] => []
  | t :: past => (t.before.cause? t.now (leader? past) t.event).toList ++ causes past

def begun (past : List (Turn ω)) : List Write := past.flatMap fun t => writesOf t.effects

/-- Where the parts of a cause come from. If it is a fetch's answer, the origin was asked for
the key of the cause on behalf of that fetch, and has answered with the payload and mark of the
cause; and a leader's policy and key are those of the call that started the fetch. -/
structure Cause.Sourced (past : List (Turn ω)) (c : Cause) : Prop where
  fetched : ∀ id, c.fetch? = some id →
    (∃ origin, Asked past id c.key origin) ∧ Answered past id ⟨c.payload, c.volatile⟩
  led : ∀ id role, c.way = .led id role →
    ∃ w, leader? past id = some w ∧ w.role = role ∧ w.policy = c.policy ∧ w.key = c.key

theorem Cause.Sourced.cons {c : Cause} (h : c.Sourced past) {t : Turn ω}
    (there : ∀ id, c.fetch? = some id → id < t.before.fetches.fetches.length) :
    c.Sourced (t :: past) where
  fetched id e :=
    let ⟨⟨origin, asked⟩, answered⟩ := h.fetched id e
    ⟨⟨origin, asked.cons t⟩, answered.cons t⟩
  led id role e := by
    rw [leader?_cons (there id (by rw [Cause.fetch?, e]))]
    exact h.led id role e

end History

namespace Scene

variable {ω : Type} {s : Scene ω} {keys : KeyScheme}

/-- What there is cause for is what has begun or waits, and every cause has a source. -/
structure Accounted (keys : KeyScheme) (s : Scene ω) : Prop where
  scheme : s.proxy.keys = keys
  books : ((causes s.past).map (Cause.write keys)).Perm (begun s.past ++ s.proxy.queued)
  sourced : ∀ c ∈ causes s.past, c.Sourced s.past ∧
    ∀ id, c.fetch? = some id → id < s.proxy.fetches.fetches.length
  /-- No answer is without consequence. -/
  answered : ∀ id a, Answered s.past id a → ∃ c ∈ causes s.past, ∃ role, c.way = .led id role ∧
    c.payload = a.payload ∧ c.volatile = a.volatile
  /-- The origin is asked for what the leader of a fetch wished for. -/
  asked : ∀ id key origin, Asked s.past id key origin → id < s.proxy.fetches.fetches.length ∧
    ∃ w, leader? s.past id = some w ∧ w.key = key ∧ w.origin = origin

theorem sourced_of_cause? {now : Moment} {e : Event ω} {fx : List (Effect ω)} {p : Proxy ω}
    (sane : s.proxy.Sane) (documented : s.Documented) (taken : s.proxy.Step now e fx p) {c : Cause}
    (cause : s.proxy.cause? now (leader? s.past) e = some c) :
    c.Sourced (⟨now, e, s.proxy, fx, p⟩ :: s.past) ∧
      ∀ id, c.fetch? = some id → id < s.proxy.fetches.fetches.length := by
  rcases Proxy.cause?_cases cause with ⟨policy, key, payload, -, -, rfl⟩ |
    ⟨id, a, w, rfl, hw, rfl⟩ | ⟨i, again⟩
  · exact ⟨⟨nofun, nofun⟩, nofun⟩
  · obtain ⟨f, hf, asking, -⟩ := taken.of_originAnswered
    have there := (List.getElem?_eq_some_iff.1 hf).1
    obtain ⟨w', hw', suits⟩ := (documented id f hf).led
    rw [hw] at hw'
    cases hw'
    have asked := (documented id f hf).asked (by rw [asking]; simp)
    rw [suits.key] at asked
    refine ⟨⟨?_, ?_⟩, ?_⟩
    · intro i e
      cases e
      exact ⟨⟨_, asked.cons _⟩, _, List.mem_cons_self, rfl⟩
    · intro i role e
      cases e
      exact ⟨w, (leader?_cons there).trans hw, rfl, rfl, rfl⟩
    · intro i e
      cases e
      exact there
  · -- The caller waits for a fetch of its own key, and the history has what that fetch brought.
    obtain ⟨policy, key, origin, flight, a, at_, known, rfl⟩ := Proxy.again?_eq_some again
    obtain ⟨f, hf, ended⟩ := Coalescer.result?_eq_some_iff.1 known
    obtain ⟨policy', key', origin', f', hq, hf', hk⟩ := sane.seated i _ at_
    rw [hf] at hf'
    cases hf'
    cases hq
    have asked := (documented _ f hf).asked (by rw [ended]; simp)
    rw [hk] at asked
    refine ⟨⟨?_, fun i role e => by cases e⟩, ?_⟩
    · intro i e
      cases e
      exact ⟨⟨_, asked.cons _⟩, ((documented _ f hf).ended a ended).cons _⟩
    · intro i e
      cases e
      exact (List.getElem?_eq_some_iff.1 hf).1

theorem Accounted.act (h : s.Accounted keys) (sane : s.proxy.Sane) (documented : s.Documented)
    (now : Moment) (e : Event ω) : (s.act now e).Accounted keys := by
  rcases s.act_cases now e with ⟨-, same⟩ | ⟨p, fx, -, taken, acted⟩
  · rw [same]
    exact ⟨h.scheme, h.books, h.sourced, h.answered, h.asked⟩
  · rw [acted]
    have led : ∀ (id : Nat) (f : Fetch (Plan ω)), s.proxy.fetches.fetches[id]? = some f →
        ∃ w, leader? s.past id = some w ∧ w.Suits s.proxy.keys f :=
      fun id f hf => (documented id f hf).led
    refine ⟨taken.keys.trans h.scheme, ?_, ?_, ?_, ?_⟩
    · have turn := taken.books sane led
      unfold Proxy.Books at turn
      rw [h.scheme] at turn
      show ((Option.toList _ ++ causes s.past).map _).Perm
        ((writesOf fx ++ begun s.past) ++ p.queued)
      rw [List.map_append, List.append_assoc]
      refine (h.books.append_left _).trans ?_
      -- The older writes stand aside while the turn is booked.
      refine (List.perm_append_comm_assoc _ _ _).trans ?_
      exact (turn.append_left _).trans (List.perm_append_comm_assoc _ _ _)
    · intro c hc
      rcases List.mem_append.1 hc with new | old
      · obtain ⟨sourced, there⟩ :=
          sourced_of_cause? sane documented taken (Option.mem_toList.1 new)
        exact ⟨sourced, fun id e => Nat.lt_of_lt_of_le (there id e) taken.length_le⟩
      · obtain ⟨sourced, there⟩ := h.sourced c old
        exact ⟨sourced.cons there, fun id e => Nat.lt_of_lt_of_le (there id e) taken.length_le⟩
    · rintro id a ⟨t, ht, event⟩
      rcases List.mem_cons.1 ht with rfl | ht
      · obtain rfl : e = .originAnswered id (.ok a) := event
        obtain ⟨f, hf, -⟩ := taken.of_originAnswered
        obtain ⟨w, hw, -⟩ := led id f hf
        have given : s.proxy.cause? now (leader? s.past) (.originAnswered id (.ok a)) =
            some ⟨.led id w.role, w.policy, w.key, a.payload, a.volatile, now⟩ := by
          rw [Proxy.cause?, hw, Option.map_some]
        exact ⟨_, List.mem_append_left _ (Option.mem_toList.2 given), w.role, rfl, rfl, rfl⟩
      · obtain ⟨c, hc, role, way, payload, volatile⟩ := h.answered id a ⟨t, ht, event⟩
        exact ⟨c, List.mem_append_right _ hc, role, way, payload, volatile⟩
    · rintro id key origin ⟨t, ht, asked⟩
      rcases List.mem_cons.1 ht with rfl | ht
      · obtain ⟨-, f, hf, rfl, rfl⟩ := taken.asks asked
        obtain ⟨w, hw, suits⟩ := led id f hf
        have there := (List.getElem?_eq_some_iff.1 hf).1
        refine ⟨Nat.lt_of_lt_of_le there taken.length_le, w, ?_, suits.key.symm, suits.origin.symm⟩
        rw [leader?_cons there]
        exact hw
      · obtain ⟨there, w, hw, key, origin⟩ := h.asked id key origin ⟨t, ht, asked⟩
        refine ⟨Nat.lt_of_lt_of_le there taken.length_le, w, ?_, key, origin⟩
        rw [leader?_cons there]
        exact hw

theorem accounted_start (keys : KeyScheme) (maxTasks : Nat) :
    (start keys maxTasks : Scene ω).Accounted keys where
  scheme := rfl
  books := .refl _
  sourced c hc := by cases hc
  answered id a h := by
    obtain ⟨t, ht, -⟩ := h
    cases ht
  asked id key origin h := by
    obtain ⟨t, ht, -⟩ := h
    cases ht

theorem accounted_run (keys : KeyScheme) (maxTasks : Nat) (es : List (Moment × Event ω)) :
    ((start keys maxTasks).run es).Accounted keys := by
  have all : let s := (start keys maxTasks).run es
      s.proxy.Sane ∧ s.Documented ∧ s.Accounted keys :=
    run_induction (P := fun s => s.proxy.Sane ∧ s.Documented ∧ s.Accounted keys)
      (fun s now e h => ⟨act_sane h.1 now e, h.2.1.act now e, h.2.2.act h.1 h.2.1 now e⟩)
      ⟨sane_start keys maxTasks, documented_start keys maxTasks, accounted_start keys maxTasks⟩ es
  exact all.2.2

/-- A fetch that fails or crashes gives no cause. -/
theorem causes_act_of_bad (s : Scene ω) (now : Moment) (id : Nat) {r : Outcome Fetched}
    (bad : ∀ a, r ≠ .ok a) : causes (s.act now (.originAnswered id r)).past = causes s.past := by
  have none_given : s.proxy.cause? now (leader? s.past) (.originAnswered id r) = none := by
    cases r with
    | ok a => exact absurd rfl (bad a)
    | failed | crashed => rfl
  rcases s.act_cases now (.originAnswered id r) with ⟨-, same⟩ | ⟨p, fx, -, -, acted⟩
  · rw [same]
  · rw [acted, causes, none_given, Option.toList_none, List.nil_append]

/-- **No write is lost, doubled or malformed.** In every state that a run comes to, the writes
that the history gives cause for are, one for one, the writes that have begun and those that
still wait. Every cause has its source in the history (`Sourced`), and every answer of an origin
is a cause; on behalf of a fetch the origin is only ever asked for the key and in the way of the
call that leads it; and a fetch that fails or crashes neither begins a write nor leaves one
waiting. -/
theorem no_write_lost (keys : KeyScheme) (maxTasks : Nat) (es : List (Moment × Event ω)) :
    let s := (start keys maxTasks).run es
    ((causes s.past).map (Cause.write keys)).Perm (begun s.past ++ s.proxy.queued) ∧
    (∀ c ∈ causes s.past, c.Sourced s.past) ∧
    (∀ id a, Answered s.past id a → ∃ c ∈ causes s.past, ∃ role, c.way = .led id role ∧
      c.payload = a.payload ∧ c.volatile = a.volatile) ∧
    (∀ id key origin, Asked s.past id key origin →
      ∃ w, leader? s.past id = some w ∧ w.key = key ∧ w.origin = origin) ∧
    (∀ now id r, (∀ a, r ≠ .ok a) → let s' := s.act now (.originAnswered id r)
      (begun s'.past ++ s'.proxy.queued).Perm (begun s.past ++ s.proxy.queued)) := by
  intro s
  have sane : s.proxy.Sane := sane_run keys maxTasks es
  have documented : s.Documented := documented_run keys maxTasks es
  have h : s.Accounted keys := accounted_run keys maxTasks es
  refine ⟨h.books, fun c hc => (h.sourced c hc).1, h.answered,
    fun id key origin asked => (h.asked id key origin asked).2, ?_⟩
  intro now id r bad
  have after := (h.act sane documented now (.originAnswered id r)).books
  rw [s.causes_act_of_bad now id bad] at after
  exact after.symm.trans h.books

end Scene

end ReadThrough
