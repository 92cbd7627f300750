import ReadThrough.Proofs.Coalescer.Holders
import ReadThrough.Proofs.Coalescer.Story

/-!
# One fetch per key at a time

The first promise of a coalescer, for every run of it: a key is taken exactly while one fetch of
it is under way, so the origin is never called for a key while it still owes an answer for that
key (`single_flight`).

The other half is about the end of a fetch. It gives its key free before its result is there
(`Ends`), whichever way it ends; so nobody can know the result while newcomers still join, and
who asks after somebody has got the result is handed another fetch.
-/

set_option autoImplicit false

namespace ReadThrough

namespace Traffic

variable {σ : Type} {t : Traffic σ}

/-! ## Calls of the origin that are not answered -/

def isAnswered (t : Traffic σ) (id : Nat) : Bool :=
  t.deeds.any fun
    | .answered i _ => i == id
    | _ => false

/-- The fetch that a deed calls the origin for, if it does so for this key. -/
def askFor? (key : String) : Deed σ → Option Nat
  | .asked id k _ => if k = key then some id else none
  | _ => none

/-- The calls of the origin for a key that are not answered, each by the number of its fetch. -/
def outstanding (t : Traffic σ) (key : String) : List Nat :=
  (t.deeds.filterMap (askFor? key)).filter fun id => !t.isAnswered id

theorem mem_story {d : Deed σ} {id : Nat} : d ∈ t.story id ↔ d ∈ t.deeds ∧ d.fetch = id := by
  simp [story]

theorem mem_outstanding {key : String} {id : Nat} (h : id ∈ t.outstanding key) :
    (∃ plan, .asked id key plan ∈ t.story id) ∧ ∀ r, .answered id r ∉ t.story id := by
  obtain ⟨asked, unanswered⟩ := List.mem_filter.1 h
  constructor
  · obtain ⟨d, hd, ask⟩ := List.mem_filterMap.1 asked
    cases d with
    | asked i k plan =>
      simp only [askFor?, Option.ite_none_right_eq_some, Option.some.injEq] at ask
      obtain ⟨rfl, rfl⟩ := ask
      exact ⟨plan, mem_story.2 ⟨hd, rfl⟩⟩
    | answered | followed | concluded => cases ask
  · intro r hr
    have answered : t.isAnswered id = true := by
      unfold isAnswered
      exact List.any_eq_true.2 ⟨_, (mem_story.1 hr).1, by simp⟩
    simp [answered] at unanswered

theorem Chronicled.alive_of_outstanding (h : t.Chronicled) {key : String} {id : Nat}
    (out : id ∈ t.outstanding key) : t.coalescer.IsAlive id key := by
  obtain ⟨⟨plan, asked⟩, unanswered⟩ := mem_outstanding out
  cases hf : t.coalescer.fetches[id]? with
  | none =>
    rw [h.blank id (List.getElem?_eq_none_iff.1 hf)] at asked
    cases asked
  | some f =>
    have told := h.told id f hf
    generalize t.story id = story at told asked unanswered
    have key_eq : key = f.key := by
      generalize f.stage = stage at told
      cases told <;> simp_all
    refine ⟨f, hf, key_eq.symm, ?_⟩
    generalize f.stage = stage at told
    cases told with
    | queued => cases asked
    | asking => rfl
    | _ => simp at unanswered

theorem count_filterMap_askFor? (key : String) (id : Nat) (ds : List (Deed σ)) :
    (ds.filterMap (askFor? key)).count id =
      ((ds.filter fun d => d.fetch == id).filterMap (askFor? key)).count id := by
  induction ds with
  | nil => rfl
  | cons d ds ih =>
    by_cases hd : d.fetch = id
    · cases ask : askFor? key d <;> simp [hd, ask, List.count_cons, ih]
    · have other : ∀ i, askFor? key d = some i → i ≠ id := by
        intro i hi e
        cases d with
        | asked j k plan =>
          simp only [askFor?, Option.ite_none_right_eq_some, Option.some.injEq] at hi
          exact hd (hi.2.trans e)
        | answered | followed | concluded => cases hi
      cases ask : askFor? key d with
      | none => simp [hd, ask, ih]
      | some i => simp [hd, ask, ih, other i ask]

theorem Chronicled.count_asks_le_one (h : t.Chronicled) (key : String) (id : Nat) :
    (t.deeds.filterMap (askFor? key)).count id ≤ 1 := by
  rw [count_filterMap_askFor?]
  show ((t.story id).filterMap (askFor? key)).count id ≤ 1
  cases hf : t.coalescer.fetches[id]? with
  | none => simp [h.blank id (List.getElem?_eq_none_iff.1 hf)]
  | some f =>
    have told := h.told id f hf
    generalize t.story id = story at told ⊢
    generalize f.stage = stage at told
    cases told <;> by_cases hk : f.key = key <;> simp [askFor?, List.filterMap_cons, hk]

theorem length_outstanding_le_one (sound : t.coalescer.Sound) (h : t.Chronicled)
    (key : String) : (t.outstanding key).length ≤ 1 := by
  cases hl : t.outstanding key with
  | nil => simp
  | cons id rest =>
    -- All of them belong to the one fetch of the key that is under way.
    have same : ∀ i ∈ t.outstanding key, i = id := fun i hi =>
      sound.alive_unique (h.alive_of_outstanding hi)
        (h.alive_of_outstanding (by rw [hl]; exact List.mem_cons_self))
    have length_eq : (t.outstanding key).length = (t.outstanding key).count id := by
      rw [List.eq_replicate_of_mem same]
      simp
    rw [← hl, length_eq]
    exact Nat.le_trans (List.Sublist.count_le id List.filter_sublist)
      (h.count_asks_le_one key id)

/-! ## The end of a fetch -/

/-- A fetch ends: first its key is given free, and only then is its result there. Every entry
that names another fetch stays. -/
structure Ends (c c' : Coalescer (Brought σ)) (key : String) (id : Nat) : Prop where
  held : c.inFlight.get? key = some id
  unknown : c.result? id = none
  released : ∃ between : Coalescer (Brought σ), ∃ r : Except Error Fetched,
    between.inFlight.get? key = none ∧
    (∀ other i, i ≠ id →
      (between.inFlight.get? other = some i ↔ c.inFlight.get? other = some i)) ∧
    between.result? id = none ∧
    c' = between.setStage id (.ended r) ∧ c'.result? id = some r

theorem ends_finish {c : Coalescer (Brought σ)} (sound : c.Sound) {id : Nat}
    {f : Fetch (Brought σ)} (at_ : c.fetches[id]? = some f) (alive : f.stage.isAlive = true)
    (r : Except Error Fetched) : Ends c (c.finish f.key id r) f.key id := by
  have held : c.inFlight.get? f.key = some id := (sound f.key id).2 ⟨f, at_, rfl, alive⟩
  have unknown : c.result? id = none := by
    cases hr : c.result? id with
    | none => rfl
    | some r' =>
      obtain ⟨g, hg, known⟩ := Coalescer.result?_eq_some_iff.1 hr
      rw [at_] at hg
      cases hg
      rw [known] at alive
      cases alive
  refine ⟨held, unknown, c.release f.key id, r, ?_, ?_, ?_, rfl, ?_⟩
  · rw [Coalescer.get?_release]
    simp [held]
  · intro other i hi
    rw [Coalescer.get?_release]
    by_cases ho : other = f.key
    · subst ho
      simp [held, Ne.symm hi]
    · simp [ho]
  · rw [Coalescer.result?, Coalescer.release_fetches]
    exact unknown
  · exact Coalescer.result?_eq_some_iff.2
      ⟨{ f with stage := .ended r }, by rw [Coalescer.getElem?_finish, at_]; simp, rfl⟩

/-- A fetch that is under way before an event and not after it has ended in order. -/
theorem Step.ends {t' : Traffic σ} (st : t.Step t') (sound : t.coalescer.Sound) {key : String}
    {id : Nat} (alive : t.coalescer.IsAlive id key) (ended : ¬t'.coalescer.IsAlive id key) :
    Ends t.coalescer t'.coalescer key id := by
  obtain ⟨f, hf, rfl, hs⟩ := alive
  have alive : t.coalescer.IsAlive id f.key := ⟨f, hf, rfl, hs⟩
  rcases st.coalescer with same | m
  · rw [same] at ended
    exact absurd alive ended
  · generalize t'.coalescer = c' at m ended ⊢
    cases m with
    | start key plan free =>
      exact absurd ((Coalescer.isAlive_start id f.key).2 (Or.inr alive)) ended
    | advance i g s at_ ha hb =>
      exact absurd ((Coalescer.isAlive_setStage at_ ha hb id f.key).2 alive) ended
    | finish i g r at_ ha =>
      have hi : id = i := by
        by_cases hi : id = i
        · exact hi
        · exact absurd ((Coalescer.isAlive_finish id f.key).2 ⟨alive, hi⟩) ended
      subst hi
      rw [hf] at at_
      cases at_
      exact ends_finish sound hf hs r

/-! ## Whoever comes after the result -/

/-- The fetch is over, and every call from this number on holds another one. -/
def Shunned (t : Traffic σ) (id calls : Nat) : Prop :=
  t.coalescer.Sound ∧ (∃ r, t.coalescer.result? id = some r) ∧
    ∀ (j : Nat) (h : Holder σ), calls ≤ j → t.holders[j]? = some h → h.flight.fetch ≠ id

theorem Shunned.step {t' : Traffic σ} {id calls : Nat} (s : t.Shunned id calls)
    (st : t.Step t') : t'.Shunned id calls := by
  obtain ⟨sound, ⟨r, known⟩, others⟩ := s
  refine ⟨st.sound sound, ⟨r, st.result? known⟩, ?_⟩
  obtain ⟨f, hf, stage⟩ := Coalescer.result?_eq_some_iff.1 known
  -- A call that comes now is handed a fetch that is under way, or a new one.
  have newcomer : ∀ {h : Holder σ}, h.flight.fetch ≠ id → ∀ (j : Nat) (g : Holder σ), calls ≤ j →
      (t.holders ++ [h])[j]? = some g → g.flight.fetch ≠ id := by
    intro h hne j g hj hg
    rw [getElem?_append_singleton] at hg
    split at hg
    case isTrue =>
      cases hg
      exact hne
    case isFalse => exact others j g hj hg
  have moved : ∀ {i : Nat} {h : Holder σ} {s : Holder.Stage}, t.holders[i]? = some h →
      ∀ (j : Nat) (g : Holder σ), calls ≤ j →
      (t.holders.set i { h with stage := s })[j]? = some g → g.flight.fetch ≠ id := by
    intro i h s at_ j g hj hg
    rcases getElem?_set_cases hg with ⟨rfl, rfl⟩ | ⟨-, same⟩
    · exact others i h hj at_
    · exact others j g hj same
  cases st with
  | nothing | begin | answer | conclude => exact others
  | join key plan i taken =>
    refine newcomer ?_
    rintro rfl
    obtain ⟨g, hg, -, alive⟩ := (sound key i).1 taken
    rw [hf] at hg
    cases hg
    rw [stage] at alive
    cases alive
  | lead key plan free =>
    refine newcomer ?_
    rintro rfl
    simp at hf
  | receive i h r at_ known => exact moved at_
  | drop i h at_ => exact moved at_

/-- **A key has one fetch at a time, and it is free before the result is known.** In every state
that a run can come to: the table holds under a key the number of the fetch of it that is under
way, and nothing if there is none; there is never a second one; and at most one call of the
origin for a key is without its answer. A fetch that comes to its end takes out its own entry,
before its result is there, and no other; and whoever asks, of whatever key, after a holder has
received the result of a fetch is not handed that fetch. -/
theorem single_flight (es : List (Event σ)) :
    let t := (empty : Traffic σ).run es
    (∀ key id, t.coalescer.inFlight.get? key = some id ↔ t.coalescer.IsAlive id key) ∧
    (∀ key i j, t.coalescer.IsAlive i key → t.coalescer.IsAlive j key → i = j) ∧
    (∀ key, (t.outstanding key).length ≤ 1) ∧
    (∀ e key id, t.coalescer.IsAlive id key → ¬(t.act e).coalescer.IsAlive id key →
      Ends t.coalescer (t.act e).coalescer key id) ∧
    (∀ (i : Nat) (h : Holder σ) (r : Except Error Fetched),
      t.holders[i]? = some h → h.stage = .received r →
      ∀ (later : List (Event σ)) (j : Nat) (newcomer : Holder σ), t.holders.length ≤ j →
        (t.run later).holders[j]? = some newcomer →
        newcomer.flight.fetch ≠ h.flight.fetch) := by
  intro t
  have sound : t.coalescer.Sound := sound_run es
  refine ⟨sound, fun key i j => sound.alive_unique, ?_, ?_, ?_⟩
  · exact length_outstanding_le_one sound (chronicled_run es)
  · intro e key id alive ended
    exact (act_step t e).ends sound alive ended
  · intro i h r hi received later j newcomer hj hn
    have known := ((manned_run es).boarded i h hi).received r received
    have shunned : t.Shunned h.flight.fetch t.holders.length :=
      ⟨sound, ⟨r, known⟩, fun k g hk hg => by
        rw [List.getElem?_eq_none hk] at hg
        cases hg⟩
    have shunned_later : (t.run later).Shunned h.flight.fetch t.holders.length :=
      run_induction (fun t e (s : t.Shunned _ _) => s.step (act_step t e)) shunned later
    exact shunned_later.2.2 j newcomer hj hn

end Traffic

end ReadThrough
