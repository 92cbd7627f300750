import Mathlib.Algebra.GroupWithZero.Nat
import Mathlib.Data.List.Basic

/-!
# Lists that change in one place

Fetches, jobs, waiters, callers and saves are all kept in lists and known by their place, so a
number that has been given away stays good. Such a list changes in three ways: what stands in a
place is modified, it is replaced, or something new comes to stand at the end. The lemmas here
say what stands where afterwards, told from the afterwards back: that is how an invariant meets
them, which is asked about whatever is found there now.
-/

set_option autoImplicit false

namespace ReadThrough

variable {α : Type} {l : List α} {i j : Nat} {a b : α}

theorem getElem?_modify_cases {f : α → α} (h : (l.modify i f)[j]? = some b) :
    (i = j ∧ ∃ a, l[i]? = some a ∧ b = f a) ∨ (i ≠ j ∧ l[j]? = some b) := by
  rw [List.getElem?_modify] at h
  obtain ⟨a, ha, rfl⟩ := Option.map_eq_some_iff.1 h
  by_cases hj : i = j
  · subst hj
    exact Or.inl ⟨rfl, a, ha, if_pos rfl⟩
  · simp only [hj, if_false]
    exact Or.inr ⟨hj, ha⟩

theorem getElem?_set_cases (h : (l.set i a)[j]? = some b) :
    (i = j ∧ b = a) ∨ (i ≠ j ∧ l[j]? = some b) := by
  rw [List.getElem?_set] at h
  split at h
  case isTrue same =>
    split at h <;> cases h
    exact Or.inl ⟨same, rfl⟩
  case isFalse other => exact Or.inr ⟨other, h⟩

theorem getElem?_append_singleton (l : List α) (a : α) (i : Nat) :
    (l ++ [a])[i]? = if i = l.length then some a else l[i]? := by
  split
  case isTrue last => rw [last, List.getElem?_concat_length]
  case isFalse other =>
    rcases Nat.lt_or_gt_of_ne other with old | beyond
    · exact List.getElem?_append_left old
    · have none_there : (l ++ [a]).length ≤ i := by
        rw [List.length_append]
        exact beyond
      rw [List.getElem?_eq_none none_there, List.getElem?_eq_none (Nat.le_of_lt beyond)]

/-- The two lists cut where they differ. -/
theorem exists_split_modify (h : l[i]? = some a) (f : α → α) :
    ∃ l₁ l₂, l = l₁ ++ a :: l₂ ∧ l.modify i f = l₁ ++ f a :: l₂ := by
  obtain ⟨hi, rfl⟩ := List.getElem?_eq_some_iff.1 h
  obtain ⟨l₁, b, l₂, split, hl, modified⟩ := List.exists_of_modify f hi
  have hb : l[i] = b := by simp [split, ← hl]
  exact ⟨l₁, l₂, by rw [hb]; exact split, by rw [hb]; exact modified⟩

theorem countP_modify (h : l[i]? = some a) (f : α → α) (p : α → Bool) :
    (l.modify i f).countP p + (p a).toNat = l.countP p + (p (f a)).toNat := by
  obtain ⟨l₁, l₂, split, modified⟩ := exists_split_modify h f
  rw [modified, split, List.countP_append, List.countP_append, List.countP_cons, List.countP_cons]
  cases p a <;> cases p (f a) <;> simp <;> omega

theorem sum_modify (w : α → Nat) (f : α → α) (h : l[i]? = some a) :
    ((l.modify i f).map w).sum + w a = (l.map w).sum + w (f a) := by
  obtain ⟨l₁, l₂, split, modified⟩ := exists_split_modify h f
  rw [modified, split]
  simp only [List.map_append, List.map_cons, List.sum_append, List.sum_cons]
  omega

theorem sum_set (w : α → Nat) (b : α) (h : l[i]? = some a) :
    ((l.set i b).map w).sum + w a = (l.map w).sum + w b := by
  rw [List.set_eq_modify]
  exact sum_modify w _ h

theorem modify_append_singleton (there : i < l.length) (f : α → α) (a : α) :
    (l ++ [a]).modify i f = l.modify i f ++ [a] := by
  apply List.ext_getElem?
  intro j
  rw [List.getElem?_modify, getElem?_append_singleton, getElem?_append_singleton,
    List.length_modify, List.getElem?_modify]
  by_cases last : j = l.length
  · rw [if_pos last, if_pos last, Option.map_eq_map, Option.map_some,
      if_neg (by rw [last]; exact Nat.ne_of_lt there)]
  · rw [if_neg last, if_neg last]

/-! ## Taking one out before or after a filter -/

section Filter

variable {p q : α → Bool}

theorem filter_eraseP_of_pos (kept : ∀ x, p x = true → q x = true) (l : List α) :
    (l.eraseP p).filter q = (l.filter q).eraseP p := by
  induction l with
  | nil => rfl
  | cons x l ih =>
    cases hp : p x with
    | true =>
      rw [List.eraseP_cons_of_pos hp, List.filter_cons_of_pos (kept x hp),
        List.eraseP_cons_of_pos hp]
    | false =>
      rw [List.eraseP_cons_of_neg (by simp [hp])]
      cases hq : q x with
      | true =>
        rw [List.filter_cons_of_pos hq, List.filter_cons_of_pos hq,
          List.eraseP_cons_of_neg (by simp [hp]), ih]
      | false => rw [List.filter_cons_of_neg (by simp [hq]), List.filter_cons_of_neg (by simp [hq]), ih]

theorem filter_eraseP_of_neg (dropped : ∀ x, p x = true → q x = false) (l : List α) :
    (l.eraseP p).filter q = l.filter q := by
  induction l with
  | nil => rfl
  | cons x l ih =>
    cases hp : p x with
    | true => rw [List.eraseP_cons_of_pos hp, List.filter_cons_of_neg (by simp [dropped x hp])]
    | false => rw [List.eraseP_cons_of_neg (by simp [hp]), List.filter_cons, List.filter_cons, ih]

theorem find?_filter_of_pos (kept : ∀ x, p x = true → q x = true) (l : List α) :
    (l.filter q).find? p = l.find? p := by
  rw [List.find?_filter]
  congr 1
  funext x
  cases hp : p x with
  | true => simp [kept x hp]
  | false => simp

end Filter

/-! ## Rows in order -/

/-- In a row with readings that stand in order up to some last one, so do those before the last item
up to the reading of this. -/
theorem pairwise_map_concat {β : Type} {f : α → β} {r : β → β → Prop} {last : β}
    (h : ((l ++ [a]).map f ++ [last]).Pairwise r) :
    (l.map f ++ [f a]).Pairwise r ∧ r (f a) last := by
  rw [List.map_append, List.map_singleton, List.pairwise_append] at h
  exact ⟨h.1, h.2.2 (f a) (by simp) last (by simp)⟩

end ReadThrough
