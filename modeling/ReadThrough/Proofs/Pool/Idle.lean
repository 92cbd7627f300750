import ReadThrough.Proofs.Pool.Yard

/-!
# Nobody waits for what is over

A waiter may look at the count just before it falls to zero and be parked just after, and whoever
counts down to zero wakes only those who are there to be woken. That this leaves nobody behind rests
on the order of two things. A waiter is registered before it looks, so whoever counts down after the
look finds it there; and it is registered once more before it looks again, since new work may have
come between the wake and the look.

The invariant says it of each waiter that is parked (`Heeded`): it has still to look, or something is
pending, or a count of zero has still to be told. When nobody has anything to do, the first and the
last are out.
-/

set_option autoImplicit false

namespace ReadThrough.Yard

variable {β : Type} {y y' : Yard β} {p : Pool β}

/-- A waiter that is parked has still to look, or waits for something. -/
def Heeded (y : Yard β) : Prop :=
  ∀ w : Nat, y.pool.waiters[w]? = some .parked → w ∈ y.looking ∨ y.pool.pending ≠ 0 ∨ y.owed ≠ 0

/-- Counting down to zero is owed to those who are parked. -/
theorem Heeded.countDown (heeded : y.Heeded) (waiters : y'.pool.waiters = y.pool.waiters)
    (looking : y'.looking = y.looking) (pending : y'.pool.pending = y.countDown.pool.pending)
    (owed : y'.owed = y.countDown.owed) : y'.Heeded := by
  intro w parked
  rw [waiters] at parked
  rw [looking, pending, owed]
  show w ∈ y.looking ∨ y.pool.pending - 1 ≠ 0 ∨
    (if y.pool.pending = 1 then y.owed + 1 else y.owed) ≠ 0
  rcases heeded w parked with looks | busy | told
  · exact Or.inl looks
  · by_cases last : y.pool.pending = 1
    · rw [if_pos last]
      exact Or.inr (Or.inr (Nat.succ_ne_zero _))
    · exact Or.inr (Or.inl (by omega))
  · refine Or.inr (Or.inr ?_)
    split
    case isTrue => exact Nat.succ_ne_zero _
    case isFalse => exact told

/-- Waiters come and go as long as whoever stays parked still looks, or has been heeded. -/
theorem Heeded.setWaiter (heeded : y.Heeded) {waiter : Nat} {s : Waiter}
    (waiters : y'.pool.waiters = y.pool.waiters.set waiter s) (pending : y'.pool.pending = y.pool.pending)
    (owed : y'.owed = y.owed) (looks : ∀ w ∈ y.looking, w ≠ waiter → w ∈ y'.looking)
    (parked : s = .parked → waiter ∈ y'.looking) : y'.Heeded := by
  intro w at_
  rw [waiters] at at_
  rw [pending, owed]
  rcases getElem?_set_cases at_ with ⟨rfl, same⟩ | ⟨other, before⟩
  · exact Or.inl (parked same.symm)
  · exact (heeded w before).imp_left fun there => looks w there (Ne.symm other)

theorem Heeded.comes {deed : Yard.Deed β} (heeded : y.Heeded) (comes : y.Comes deed y') :
    y'.Heeded := by
  cases comes with
  | nothing => exact heeded
  | spawn work => exact fun w _ => Or.inr (Or.inl (Nat.succ_ne_zero _))
  | resume resumed =>
    intro w parked
    obtain ⟨-, waiters, -⟩ := Pool.resume?_cases resumed
    rw [waiters] at parked
    rw [Pool.pending_resume? resumed]
    exact heeded w parked
  | finish how running =>
    intro w parked
    rw [Pool.waiters_handOn] at parked
    rw [Pool.pending_handOn]
    exact heeded w parked
  | settle | release => exact heeded.countDown rfl rfl rfl rfl
  | track => exact fun w _ => Or.inr (Or.inl (Nat.succ_ne_zero _))
  | rouse =>
    -- Nobody is parked any more.
    intro w parked
    simp only [Pool.rouse, List.getElem?_map, Option.map_eq_some_iff] at parked
    obtain ⟨x, -, same⟩ := parked
    cases x <;> cases same
  | arrive =>
    intro w parked
    rw [getElem?_append_singleton] at parked
    split at parked
    case isTrue last => exact Or.inl (last ▸ List.mem_cons_self)
    case isFalse => exact (heeded w parked).imp_left (List.mem_cons_of_mem _)
  | again =>
    exact heeded.setWaiter rfl rfl rfl (fun w there _ => List.mem_cons_of_mem _ there)
      fun _ => List.mem_cons_self
  | returns | leave =>
    exact heeded.setWaiter rfl rfl rfl
      (fun w there other => List.mem_filter.2 ⟨there, by simpa using other⟩) nofun
  | parks looks busy => exact fun w _ => Or.inr (Or.inl busy)

theorem heeded_run (limit : Nat) (deeds : List (Yard.Deed β)) :
    ((ofPool (Pool.ofLimit limit)).run deeds).Heeded := by
  refine run_induction (fun y deed heeded => heeded.comes (y.comes deed)) ?_ deeds
  intro w parked
  simp [ofPool, Pool.ofLimit] at parked

/-- What is promised to those who wait until nothing is pending. -/
structure Awake (y : Yard β) : Prop where
  /-- A waiter returns by a deed that finds nothing pending and leaves nothing pending. -/
  returns : ∀ deed (w : Nat), y.pool.waiters[w]? ≠ some .returned →
    (y.act deed).pool.waiters[w]? = some .returned →
    y.pool.pending = 0 ∧ (y.act deed).pool.pending = 0
  /-- If nobody has anything to do and nothing is pending, then nobody waits. -/
  nobody : y.Still → y.pool.pending = 0 → ∀ (w : Nat) (s : Waiter), y.pool.waiters[w]? = some s →
    s = .returned ∨ s = .gone

/-- Only a look at a count of zero lets a waiter return. -/
theorem pending_of_returns {deed : Yard.Deed β} (comes : y.Comes deed y') {w : Nat}
    (before : y.pool.waiters[w]? ≠ some .returned) (after : y'.pool.waiters[w]? = some .returned) :
    y.pool.pending = 0 ∧ y'.pool.pending = 0 := by
  cases comes with
  | nothing | spawn | settle | track | release | parks => exact absurd after before
  | resume resumed =>
    obtain ⟨-, waiters, -⟩ := Pool.resume?_cases resumed
    exact absurd (waiters ▸ after) before
  | finish =>
    rw [Pool.waiters_handOn] at after
    exact absurd after before
  | rouse =>
    simp only [Pool.rouse, List.getElem?_map, Option.map_eq_some_iff] at after
    obtain ⟨x, there, same⟩ := after
    cases x with
    | returned => exact absurd there before
    | parked | woken | gone => cases same
  | arrive =>
    rw [getElem?_append_singleton] at after
    split at after
    case isTrue => cases after
    case isFalse => exact absurd after before
  | returns _ idle => exact ⟨idle, idle⟩
  | again | leave =>
    rcases getElem?_set_cases after with ⟨-, same⟩ | ⟨-, there⟩
    · cases same
    · exact absurd there before

/-- Whoever does what in a pool, a waiter returns only when nothing is pending and is never left
parked then; and the operations of the pool do nothing else than what is done there. -/
theorem awake (limit : Nat) (p : Pool β) (made : Pool.create limit = .ok p) :
    (∀ deeds, Awake ((ofPool p).run deeds)) ∧
      ∀ p', Relation.ReflTransGen Pool.Move p p' →
        ∃ deeds, ((ofPool p).run deeds).AtRest ∧ ((ofPool p).run deeds).pool = p' := by
  obtain rfl := eq_ofLimit made
  refine ⟨fun deeds => ⟨fun deed w => pending_of_returns (comes _ deed), ?_⟩, fun p' moves =>
    exists_deeds_of_moves ⟨rfl, rfl, rfl⟩ moves⟩
  intro still idle w s at_
  cases s with
  | returned => exact Or.inl rfl
  | gone => exact Or.inr rfl
  | parked =>
    rcases heeded_run limit deeds w at_ with looks | busy | owed
    · rw [still.looking] at looks
      cases looks
    · exact absurd idle busy
    · exact absurd still.owed owed
  | woken =>
    have due := (announced_run limit deeds).waiter w at_
    rw [still.due] at due
    cases due

/-- New work comes after the count has fallen to zero and before the waiter has been woken. The waiter
looks again and is parked again, and returns when that work has ended as well. -/
theorem awake_late :
    let early : List (Yard.Deed String) :=
      [.track, .arrive, .look 0, .release 0, .spawn "late", .rouse, .again 0, .look 0]
    let late : List (Yard.Deed String) :=
      [.resume 0, .finish 0 (.ok ()), .settle 0, .rouse, .again 0, .look 0]
    ∃ p : Pool String, Pool.create 1 = .ok p ∧
      ((ofPool p).run early).pool.waiters = [.parked] ∧
      ((ofPool p).run (early ++ late)).Still ∧ ((ofPool p).run (early ++ late)).pool.pending = 0 ∧
      ∀ (w : Nat) (s : Waiter), ((ofPool p).run (early ++ late)).pool.waiters[w]? = some s →
        s = .returned ∨ s = .gone := by
  intro early late
  have made : Pool.create 1 = .ok (Pool.ofLimit 1 : Pool String) := rfl
  have still : ((ofPool (Pool.ofLimit 1)).run (early ++ late)).Still := ⟨⟨rfl, rfl, rfl⟩, rfl⟩
  exact ⟨Pool.ofLimit 1, made, rfl, still, rfl,
    ((awake 1 _ made).1 (early ++ late)).nobody still rfl⟩

end ReadThrough.Yard
