import ReadThrough.Proofs.Coalescer.Traffic

/-!
# Who holds which flight

Every call at a coalescer is handed one flight, and every fetch was started by one call, its
leader, whose plan it follows (`Manned`). What a holder has received is what its fetch came to.
Holders may look or leave whenever they like; nothing about a fetch hangs on it, so an event of
theirs is settled by `setHolder` and an event of a fetch by `advance`.
-/

set_option autoImplicit false

namespace ReadThrough

namespace Traffic

variable {σ : Type}

/-- What is true of the call of this number. -/
structure Boarded (t : Traffic σ) (call : Nat) (h : Holder σ) : Prop where
  /-- Its flight is a fetch of the key it asked for, and a fetch that follows its plan exactly
  if it leads. -/
  fetch : ∃ f, t.coalescer.fetches[h.flight.fetch]? = some f ∧ f.key = h.key ∧
    (h.flight.leader = true → f.plan = ⟨call, h.brought⟩) ∧
    (h.flight.leader = false → f.plan.call ≠ call)
  /-- What it received is what the fetch came to. -/
  received : ∀ r, h.stage = .received r → t.coalescer.result? h.flight.fetch = some r

/-- Every call holds its flight, and every fetch has been started by one of the calls. -/
structure Manned (t : Traffic σ) : Prop where
  boarded : ∀ (i : Nat) (h : Holder σ), t.holders[i]? = some h → t.Boarded i h
  led : ∀ (id : Nat) (f : Fetch (Brought σ)), t.coalescer.fetches[id]? = some f →
    ∃ h, t.holders[f.plan.call]? = some h ∧ h.flight = ⟨id, true⟩

theorem Boarded.mono {t t' : Traffic σ} {call : Nat} {h : Holder σ} (b : t.Boarded call h)
    (m : t'.coalescer = t.coalescer ∨ t.coalescer.Move t'.coalescer) : t'.Boarded call h := by
  obtain ⟨⟨f, hf, hk, hl, hj⟩, hr⟩ := b
  rcases m with same | m
  · exact ⟨⟨f, by rw [same]; exact hf, hk, hl, hj⟩, fun r e => by rw [same]; exact hr r e⟩
  · obtain ⟨f', hf', hk', hp', -⟩ := m.keeps hf
    exact ⟨⟨f', hf', by rw [hk', hk], by rw [hp']; exact hl, by rw [hp']; exact hj⟩,
      fun r e => m.result? (hr r e)⟩

theorem Manned.empty : (empty : Traffic σ).Manned where
  boarded i h hi := by simp [Traffic.empty] at hi
  led id f hf := by simp [Traffic.empty, Coalescer.empty] at hf

theorem Manned.board {t : Traffic σ} (m : t.Manned) {c : Coalescer (Brought σ)} {h : Holder σ}
    (moved : c = t.coalescer ∨ t.coalescer.Move c)
    (boards : Boarded { t with coalescer := c, holders := t.holders ++ [h] } t.holders.length h)
    (led : ∀ (id : Nat) (f : Fetch (Brought σ)), c.fetches[id]? = some f →
      (∃ f₀, t.coalescer.fetches[id]? = some f₀ ∧ f.plan = f₀.plan) ∨
      (f.plan.call = t.holders.length ∧ h.flight = ⟨id, true⟩)) :
    Manned { t with coalescer := c, holders := t.holders ++ [h] } where
  boarded i g hi := by
    rw [getElem?_append_singleton] at hi
    split at hi
    case isTrue last =>
      cases hi
      subst last
      exact boards
    case isFalse => exact (m.boarded i g hi).mono moved
  led id f hf := by
    rcases led id f hf with ⟨f₀, hf₀, same⟩ | ⟨call, flight⟩
    · obtain ⟨g, hg, flight⟩ := m.led id f₀ hf₀
      refine ⟨g, ?_, flight⟩
      have hlt := (List.getElem?_eq_some_iff.1 hg).1
      rw [same, List.getElem?_append_left hlt, hg]
    · exact ⟨h, by simp [call], flight⟩

theorem Manned.setHolder {t : Traffic σ} (m : t.Manned) {i : Nat} {h : Holder σ}
    {s : Holder.Stage} (at_ : t.holders[i]? = some h)
    (received : ∀ r, s = .received r → t.coalescer.result? h.flight.fetch = some r) :
    Manned { t with holders := t.holders.set i { h with stage := s } } where
  boarded j g hj := by
    rcases getElem?_set_cases hj with ⟨rfl, rfl⟩ | ⟨-, same⟩
    · exact ⟨(m.boarded i h at_).fetch, received⟩
    · exact (m.boarded j g same).mono (Or.inl rfl)
  led id f hf := by
    obtain ⟨g, hg, flight⟩ := m.led id f hf
    by_cases hi : i = f.plan.call
    · subst hi
      rw [at_] at hg
      cases hg
      have hlt := (List.getElem?_eq_some_iff.1 at_).1
      exact ⟨{ h with stage := s }, by simp [hlt], flight⟩
    · exact ⟨g, by simp [hi, hg], flight⟩

theorem Manned.advance {t : Traffic σ} (m : t.Manned) {c : Coalescer (Brought σ)}
    {deeds : List (Deed σ)} (moved : t.coalescer.Move c)
    (same : c.fetches.length = t.coalescer.fetches.length) :
    Manned { t with coalescer := c, deeds := deeds } where
  boarded i h hi := (m.boarded i h hi).mono (Or.inr moved)
  led id f hf := by
    have hlt : id < t.coalescer.fetches.length := by
      rw [← same]
      exact (List.getElem?_eq_some_iff.1 hf).1
    obtain ⟨f', hf', -, plan, -⟩ := moved.keeps (List.getElem?_eq_getElem hlt)
    rw [hf] at hf'
    cases hf'
    obtain ⟨h, hh, flight⟩ := m.led id _ (List.getElem?_eq_getElem hlt)
    exact ⟨h, by rw [plan]; exact hh, flight⟩

theorem Manned.step {t t' : Traffic σ} (m : t.Manned) (sound : t.coalescer.Sound)
    (h : t.Step t') : t'.Manned := by
  have moves := h.coalescer
  cases h with
  | nothing => exact m
  | join key plan id taken =>
    obtain ⟨f, hf, hk, -⟩ := (sound key id).1 taken
    refine m.board (Or.inl rfl) ⟨⟨f, hf, hk, by simp, ?_⟩, by simp⟩
      (fun id g hg => Or.inl ⟨g, hg, rfl⟩)
    intro _
    -- Whoever started the fetch came earlier.
    obtain ⟨g, hg, -⟩ := m.led id f hf
    exact Nat.ne_of_lt (List.getElem?_eq_some_iff.1 hg).1
  | lead key plan free =>
    have first : (t.coalescer.start key ⟨t.holders.length, plan⟩).fetches[
        t.coalescer.fetches.length]? = some ⟨key, ⟨t.holders.length, plan⟩, .queued⟩ := by
      simp [Coalescer.getElem?_start]
    refine m.board (Or.inr (.start key _ free)) ⟨⟨_, first, rfl, by simp, by simp⟩, by simp⟩ ?_
    intro id g hg
    rw [Coalescer.getElem?_start] at hg
    split at hg
    case isTrue e =>
      cases hg
      exact Or.inr ⟨rfl, by rw [e]⟩
    case isFalse => exact Or.inl ⟨g, hg, rfl⟩
  | begin id f at_ stage =>
    exact m.advance (.advance id f _ at_ (by rw [stage]; rfl) rfl) (by simp)
  | answer id f r at_ stage =>
    refine m.advance (Coalescer.receive?_moves
      (Coalescer.receive?_eq_some_iff.2 ⟨at_, stage, rfl⟩)) ?_
    cases r <;> simp [Coalescer.received, Coalescer.finish]
  | conclude id f a r at_ stage =>
    exact m.advance (.finish id f _ at_ (by rw [stage]; rfl)) (by simp [Coalescer.finish])
  | receive i h r at_ known => exact m.setHolder at_ (fun r' e => by cases e; exact known)
  | drop i h at_ => exact m.setHolder at_ (fun r' e => by cases e)

/-- Whatever has happened, every flight is held by one call and led by one. -/
theorem manned_run (es : List (Event σ)) : ((empty : Traffic σ).run es).Manned := by
  have both : ((empty : Traffic σ).run es).coalescer.Sound ∧
      ((empty : Traffic σ).run es).Manned :=
    run_induction (P := fun t => t.coalescer.Sound ∧ t.Manned)
      (fun t e h => ⟨(act_step t e).sound h.1, h.2.step h.1 (act_step t e)⟩)
      ⟨Coalescer.Sound.empty, Manned.empty⟩ es
  exact both.2

end Traffic

end ReadThrough
