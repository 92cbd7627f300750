/-!
# Tables

A table holds at most one thing under each key. It is a list of pairs with no key twice, the
newest pair in front; that no key stands twice is a field of the type, so the size of a table is
the number of its keys. Everything in this library that is looked up by a key (stored entries,
the origin's answers, the fetches under way) is a table.

What a reader sees of a table is `get?`, and each operation is described by what it does to
that.
-/

set_option autoImplicit false

namespace ReadThrough

/-- Things under keys. -/
structure Table (κ α : Type) where
  entries : List (κ × α)
  nodup : (entries.map (·.1)).Nodup
  deriving Repr

namespace Table

variable {κ α : Type}

/-- Nothing under any key. -/
def empty : Table κ α := ⟨[], by simp⟩

instance : Inhabited (Table κ α) := ⟨empty⟩

/-- The number of keys. -/
def size (t : Table κ α) : Nat := t.entries.length

/-- The pairs that are to be kept. -/
def filter (t : Table κ α) (keep : κ → α → Bool) : Table κ α :=
  ⟨t.entries.filter fun p => keep p.1 p.2, t.nodup.sublist (List.filter_sublist.map _)⟩

variable [DecidableEq κ]

/-- What stands under a key. -/
def get? (t : Table κ α) (key : κ) : Option α := (t.entries.find? (·.1 = key)).map (·.2)

/-- The table without a key. -/
def erase (t : Table κ α) (key : κ) : Table κ α := t.filter fun k _ => k ≠ key

/-- The table with one thing under a key, whatever stood there before. -/
def insert (t : Table κ α) (key : κ) (a : α) : Table κ α :=
  ⟨(key, a) :: (t.erase key).entries, by
    refine List.nodup_cons.2 ⟨?_, (t.erase key).nodup⟩
    simp [erase, filter]⟩

/-! ## What each operation does to a look-up -/

@[simp] theorem get?_empty (key : κ) : (empty : Table κ α).get? key = none := rfl

/-- A key is found where its pair stands. -/
theorem get?_eq_some_iff (t : Table κ α) (key : κ) (a : α) :
    t.get? key = some a ↔ (key, a) ∈ t.entries := by
  obtain ⟨l, hl⟩ := t
  induction l with
  | nil => simp [get?]
  | cons p rest ih =>
    obtain ⟨h1, h2⟩ := List.nodup_cons.1 hl
    specialize ih h2
    simp only [get?] at ih ⊢
    by_cases h : p.1 = key
    · have hrest : (key, a) ∉ rest := by
        intro hm
        exact h1 (List.mem_map.2 ⟨(key, a), hm, h.symm⟩)
      simp only [List.find?_cons, h, decide_true, Option.map_some, Option.some.injEq,
        List.mem_cons, hrest, or_false]
      constructor
      · intro e
        exact Prod.ext h.symm e.symm
      · intro e
        rw [← e]
    · have hp : (key, a) ≠ p := fun e => h (e ▸ rfl)
      simp [h, hp, ih]

/-- A table with nothing under any key is empty. -/
theorem size_eq_zero {t : Table κ α} (h : ∀ key, t.get? key = none) : t.size = 0 := by
  refine List.length_eq_zero_iff.2 (List.eq_nil_iff_forall_not_mem.2 fun p hp => ?_)
  have found : t.get? p.1 = some p.2 := (get?_eq_some_iff t p.1 p.2).2 hp
  rw [h p.1] at found
  cases found

theorem get?_filter (t : Table κ α) (keep : κ → α → Bool) (key : κ) :
    (t.filter keep).get? key = (t.get? key).filter (keep key) := by
  apply Option.ext
  intro a
  rw [get?_eq_some_iff, Option.filter_eq_some_iff, get?_eq_some_iff]
  simp [filter]

theorem get?_erase (t : Table κ α) (key other : κ) :
    (t.erase key).get? other = if other = key then none else t.get? other := by
  rw [erase, get?_filter]
  by_cases h : other = key
  · simp [h]
  · cases t.get? other <;> simp [h]

theorem get?_insert (t : Table κ α) (key other : κ) (a : α) :
    (t.insert key a).get? other = if other = key then some a else t.get? other := by
  by_cases h : other = key
  · simp [insert, get?, h]
  · have h' : ¬key = other := fun e => h e.symm
    have he := get?_erase t key other
    simp only [get?, h, if_false] at he
    simp [insert, get?, h, h', he]

end Table

end ReadThrough
