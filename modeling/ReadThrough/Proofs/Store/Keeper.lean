import ReadThrough.Store.Values

/-!
# Stores of values

A `Keeper` is a store of values, by what it does: it reads, writes and deletes under a key, on a
state of its own, and each of these has an outcome. The store in memory is one.

A store that keeps its keys apart is one where an operation under a key has to do with nothing
but what is kept under this key (`Cellular`). That is all that is needed of a store to keep those
apart who share it and use different keys, and the store in memory is shown to be of this kind.
-/

set_option autoImplicit false

namespace ReadThrough

/-- A store of values, by what it does to a state at a reading of the monotonic clock. -/
structure Keeper (σ : Type) where
  read : Moment → String → σ → Outcome (Option Value) × σ
  write : Moment → String → Value → Duration → σ → Outcome Unit × σ
  delete : Moment → String → σ → Outcome Unit × σ

/-- The store in memory. -/
def ByteMap.keeper : Keeper ByteMap where
  read now key m := ((m.readValue now key).1.outcome, (m.readValue now key).2)
  write now key v ttl m := ((m.writeValue now key v ttl).1.outcome, (m.writeValue now key v ttl).2)
  delete _ key m := m.deleteValue key

/-! ## Keys kept apart -/

/-- What is done under a key depends on nothing but what is kept there, and changes nothing
else; `cell s key` is what is kept under the key. -/
structure Confined {σ γ α : Type} (cell : σ → String → γ) (key : String) (f : σ → α × σ) : Prop where
  answer : ∀ s s', cell s key = cell s' key → (f s).1 = (f s').1
  within : ∀ s s', cell s key = cell s' key → cell (f s).2 key = cell (f s').2 key
  others : ∀ s other, other ≠ key → cell (f s).2 other = cell s other

namespace Keeper

variable {σ γ : Type}

/-- The store keeps its keys apart. -/
structure Cellular (k : Keeper σ) (cell : σ → String → γ) : Prop where
  read : ∀ now key, Confined cell key (k.read now key)
  write : ∀ now key v ttl, Confined cell key (k.write now key v ttl)
  delete : ∀ now key, Confined cell key (k.delete now key)

end Keeper

namespace ByteMap

theorem confined_get (now : Readings) (key : String) :
    Confined Table.get? key fun m : ByteMap => TimedMap.get m now key where
  answer m m' same := by
    rw [TimedMap.get_fst, TimedMap.get_fst, TimedMap.live?, TimedMap.live?, same]
  within m m' same := by
    rw [TimedMap.get?_get_self, TimedMap.get?_get_self, same]
  others m _ ne := TimedMap.get?_get_of_ne m now ne

theorem confined_insert (now : Moment) (key : String) (ttl : Option Duration) (bytes : List UInt8) :
    Confined Table.get? key fun m : ByteMap => ByteMap.write now key ttl bytes m where
  answer m m' _ := by
    cases ttl with
    | none => rfl
    | some ttl =>
      simp only [ByteMap.write, TimedMap.insert?]
      cases now.add? ttl <;> rfl
  within m m' same := by
    cases ttl with
    | none => simp [ByteMap.write, TimedMap.insert?, Table.get?_insert]
    | some ttl =>
      simp only [ByteMap.write, TimedMap.insert?]
      cases now.add? ttl with
      | none => exact same
      | some d => simp [Table.get?_insert]
  others m other ne := by
    cases ttl with
    | none => simp [ByteMap.write, TimedMap.insert?, Table.get?_insert, ne]
    | some ttl =>
      simp only [ByteMap.write, TimedMap.insert?]
      cases now.add? ttl with
      | none => rfl
      | some d => simp [Table.get?_insert, ne]

/-- The store in memory keeps its keys apart. -/
theorem cellular : keeper.Cellular Table.get? where
  read now key := by
    have got := confined_get (.still now) key
    have refused : ∀ m : ByteMap, m.readValue now key =
        if key.isEmpty then (.quiet (.failed emptyKeyError), m)
        else (((m.get (.still now) key).1.elim (.quiet (.ok none)) fun bytes =>
          ⟨(Codec.decodeEntry bytes).outcome.map some, (Codec.decodeEntry bytes).log⟩),
          (m.get (.still now) key).2) := by
      intro m
      unfold readValue readValueBy ByteMap.read
      cases m.get (.still now) key with
      | mk bytes m' => cases bytes <;> rfl
    constructor
    · intro m m' same
      simp only [keeper, refused]
      split
      · rfl
      · rw [got.answer m m' same]
    · intro m m' same
      simp only [keeper, refused]
      split
      · exact same
      · exact got.within m m' same
    · intro m other ne
      simp only [keeper, refused]
      split
      · rfl
      · exact got.others m other ne
  write now key v ttl := by
    have put := confined_insert now key (some ttl)
    constructor
    · intro m m' same
      simp only [keeper, writeValue, writeValueBy]
      split
      · rfl
      · cases Codec.encodeEntry v with
        | mk outcome log => cases outcome with
          | ok bytes => exact (put bytes).answer m m' same
          | failed | crashed => rfl
    · intro m m' same
      simp only [keeper, writeValue, writeValueBy]
      split
      · exact same
      · cases Codec.encodeEntry v with
        | mk outcome log => cases outcome with
          | ok bytes => exact (put bytes).within m m' same
          | failed | crashed => exact same
    · intro m other ne
      simp only [keeper, writeValue, writeValueBy]
      split
      · rfl
      · cases Codec.encodeEntry v with
        | mk outcome log => cases outcome with
          | ok bytes => exact (put bytes).others m other ne
          | failed | crashed => rfl
  delete now key := by
    constructor
    · intro m m' _
      simp only [keeper, deleteValue, deleteValueBy]
      split <;> rfl
    · intro m m' same
      simp only [keeper, deleteValue, deleteValueBy]
      split
      · exact same
      · simp [ByteMap.delete, Table.get?_erase]
    · intro m other ne
      simp only [keeper, deleteValue, deleteValueBy]
      split
      · rfl
      · simp [ByteMap.delete, Table.get?_erase, ne]

end ByteMap

end ReadThrough
