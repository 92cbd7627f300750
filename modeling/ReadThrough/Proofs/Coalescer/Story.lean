import ReadThrough.Proofs.Coalescer.Traffic

/-!
# The story of a fetch

`Told` lists the stories that a fetch can have, from its first deed to its last, by the stage
that it has come to. There are eight, and each deed stands in them at most once.
`Chronicled` says that every fetch of a run has one of them. The result that a fetch ends with
can be read off its story, and so can whose plan was followed and how often.
-/

set_option autoImplicit false

namespace ReadThrough

namespace Traffic

variable {σ : Type}

/-- What has been done for one fetch, in order. -/
def story (t : Traffic σ) (id : Nat) : List (Deed σ) := t.deeds.filter fun d => d.fetch == id

/-- The stories that end at each stage of a fetch of a key that follows a plan. Its origin is
called once, the plan is followed once if the origin answered and never otherwise, and the
result is the first failure on the way or, if there was none, the origin's answer. -/
inductive Told (id : Nat) (key : String) (plan : Brought σ) :
    Fetch.Stage → List (Deed σ) → Prop
  | queued : Told id key plan .queued []
  | asking : Told id key plan .asking [.asked id key plan]
  | refused (e : Error) : Told id key plan (.ended (.error e))
      [.asked id key plan, .answered id (.failed e)]
  | crashed (text : String) : Told id key plan (.ended (.error (Coalescer.crashError text)))
      [.asked id key plan, .answered id (.crashed text)]
  | storing (a : Fetched) : Told id key plan (.storing a)
      [.asked id key plan, .answered id (.ok a), .followed id plan a]
  | stored (a : Fetched) : Told id key plan (.ended (.ok a))
      [.asked id key plan, .answered id (.ok a), .followed id plan a, .concluded id (.ok ())]
  | notStored (a : Fetched) (e : Error) : Told id key plan (.ended (.error e))
      [.asked id key plan, .answered id (.ok a), .followed id plan a,
        .concluded id (.failed e)]
  | storeCrashed (a : Fetched) (text : String) :
      Told id key plan (.ended (.error (Coalescer.crashError text)))
      [.asked id key plan, .answered id (.ok a), .followed id plan a,
        .concluded id (.crashed text)]

/-- Every fetch has the story of its stage, and what is no fetch has none. -/
structure Chronicled (t : Traffic σ) : Prop where
  told : ∀ (id : Nat) (f : Fetch (Brought σ)), t.coalescer.fetches[id]? = some f →
    Told id f.key f.plan f.stage (t.story id)
  blank : ∀ id, t.coalescer.fetches.length ≤ id → t.story id = []

theorem story_append (t : Traffic σ) (ds : List (Deed σ)) (c : Coalescer (Brought σ)) (i : Nat) :
    story { t with coalescer := c, deeds := t.deeds ++ ds } i =
      t.story i ++ ds.filter fun d => d.fetch == i := by
  simp [story]

theorem Chronicled.extend {t : Traffic σ} (h : t.Chronicled) {id : Nat} {f : Fetch (Brought σ)}
    {s : Fetch.Stage} {c : Coalescer (Brought σ)} {ds : List (Deed σ)}
    (at_ : t.coalescer.fetches[id]? = some f)
    (fetches : ∀ i, c.fetches[i]? =
      (t.coalescer.fetches[i]?).map fun g => if id = i then { g with stage := s } else g)
    (own : ∀ d ∈ ds, d.fetch = id) (told : Told id f.key f.plan s (t.story id ++ ds)) :
    Chronicled { t with coalescer := c, deeds := t.deeds ++ ds } where
  told i g hg := by
    rw [fetches i] at hg
    rw [story_append]
    by_cases hi : id = i
    · subst hi
      rw [at_] at hg
      simp only [Option.map_some, if_true, Option.some.injEq] at hg
      rw [← hg, List.filter_eq_self.2 fun d hd => by simp [own d hd]]
      exact told
    · have others : ds.filter (fun d => d.fetch == i) = [] :=
        List.filter_eq_nil_iff.2 fun d hd => by simp [own d hd, hi]
      rw [others, List.append_nil]
      simp only [hi, if_false, Option.map_id'] at hg
      exact h.told i g hg
  blank i hi := by
    have same : t.coalescer.fetches.length ≤ i := by
      have none_there : c.fetches[i]? = none := List.getElem?_eq_none hi
      rw [fetches i, Option.map_eq_none_iff] at none_there
      exact List.getElem?_eq_none_iff.1 none_there
    have hne : id ≠ i := by
      rintro rfl
      rw [List.getElem?_eq_none same] at at_
      cases at_
    have others : ds.filter (fun d => d.fetch == i) = [] :=
      List.filter_eq_nil_iff.2 fun d hd => by simp [own d hd, hne]
    rw [story_append, others, List.append_nil]
    exact h.blank i same

theorem Chronicled.empty : (empty : Traffic σ).Chronicled where
  told id f hf := by simp [Traffic.empty, Coalescer.empty] at hf
  blank id _ := rfl

theorem Chronicled.step {t t' : Traffic σ} (h : t.Chronicled) (st : t.Step t') :
    t'.Chronicled := by
  cases st with
  | nothing => exact h
  | join | receive | drop => exact ⟨h.told, h.blank⟩
  | lead key plan free =>
    constructor
    · intro id f hf
      rw [Coalescer.getElem?_start] at hf
      split at hf
      case isTrue e =>
        cases hf
        have untold : t.story id = [] := h.blank id (by omega)
        show Told id key _ .queued (t.story id)
        rw [untold]
        exact .queued
      case isFalse => exact h.told id f hf
    · intro id hid
      refine h.blank id ?_
      simp only [Coalescer.start, List.length_append, List.length_singleton] at hid
      omega
  | begin id f at_ stage =>
    have told := h.told id f at_
    rw [stage] at told
    refine h.extend at_ (t.coalescer.getElem?_setStage id · _) (by simp [Deed.fetch]) ?_
    generalize t.story id = story at told ⊢
    cases told
    exact .asking
  | answer id f r at_ stage =>
    have told := h.told id f at_
    rw [stage] at told
    cases r with
    | ok a =>
      refine h.extend at_ (t.coalescer.getElem?_setStage id · _)
        (by simp [followUp, Deed.fetch]) ?_
      generalize t.story id = story at told ⊢
      cases told
      exact .storing a
    | failed e =>
      refine h.extend at_ (t.coalescer.getElem?_finish f.key id · _)
        (by simp [followUp, Deed.fetch]) ?_
      generalize t.story id = story at told ⊢
      cases told
      exact .refused e
    | crashed text =>
      refine h.extend at_ (t.coalescer.getElem?_finish f.key id · _)
        (by simp [followUp, Deed.fetch]) ?_
      generalize t.story id = story at told ⊢
      cases told
      exact .crashed text
  | conclude id f a r at_ stage =>
    have told := h.told id f at_
    rw [stage] at told
    refine h.extend at_ (t.coalescer.getElem?_finish f.key id · _) (by simp [Deed.fetch]) ?_
    generalize t.story id = story at told ⊢
    cases told
    cases r with
    | ok u => exact .stored a
    | failed e => exact .notStored a e
    | crashed text => exact .storeCrashed a text

/-- Whatever has happened, every fetch has a story. -/
theorem chronicled_run (es : List (Event σ)) : ((empty : Traffic σ).run es).Chronicled :=
  run_induction (fun t e h => h.step (act_step t e)) Chronicled.empty es

end Traffic

end ReadThrough
