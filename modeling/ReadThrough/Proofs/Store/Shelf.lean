import Mathlib.Logic.Function.Basic
import ReadThrough.Proofs.Codec.RoundTrip
import ReadThrough.Proofs.Store.Keeper

/-!
# What a store of bytes amounts to

The store in memory keeps bytes, takes expired entries out when somebody meets them, and turns
values into bytes and back. A reader sees none of this. What a reader sees is a `Shelf`: under
each key a value, or the error that the bytes come to, with a deadline.

Every operation on the bytes is one on the shelf: a write replaces what lies under the key, a
deletion takes it away, and a read changes nothing that could still be read (`Agree`).
-/

set_option autoImplicit false

namespace ReadThrough

/-- Values with deadlines, under keys. -/
abbrev Shelf := String → Option (Timed (Outcome Value))

namespace Shelf

/-- What lies under a key and has not expired. -/
def live? (s : Shelf) (now : Moment) (key : String) : Option (Timed (Outcome Value)) :=
  (s key).filter fun e => !e.isExpired now

/-- Puts a value under a key for `ttl` from now on. It cannot be put there if it was made before
1970, or if its deadline lies past the end of the clock. -/
def put (s : Shelf) (now : Moment) (key : String) (v : Value) (ttl : Duration) :
    Outcome Unit × Shelf :=
  if v.createdAt.any (·.seconds < 0) then (.failed (.serialization Codec.unwritableText), s)
  else
    match now.add? ttl with
    | none => (.crashed Moment.endCrash, s)
    | some d => (.ok (), Function.update s key (some ⟨.ok v, some d⟩))

def drop (s : Shelf) (key : String) : Shelf := Function.update s key none

/-- What a reader makes of stored bytes. -/
def ofBytes (m : ByteMap) : Shelf := fun key =>
  (m.get? key).map fun e => ⟨(Codec.decodeEntry e.content).outcome, e.deadline⟩

/-- From this moment on the two show the same. -/
def Agree (now : Moment) (s t : Shelf) : Prop :=
  ∀ later key, now ≤ later → s.live? later key = t.live? later key

variable {s t u : Shelf} {now later : Moment}

theorem Agree.refl (now : Moment) (s : Shelf) : Agree now s s := fun _ _ _ => rfl

theorem Agree.trans (h : Agree now s t) (h' : Agree now t u) : Agree now s u :=
  fun later key le => (h later key le).trans (h' later key le)

theorem Agree.mono (h : Agree now s t) (le : now ≤ later) : Agree later s t :=
  fun after key le' => h after key (Moment.le_trans le le')

theorem Agree.update (h : Agree now s t) (key : String) (e : Option (Timed (Outcome Value))) :
    Agree now (Function.update s key e) (Function.update t key e) := by
  intro later other le
  unfold live?
  by_cases same : other = key
  · rw [same, Function.update_self, Function.update_self]
  · rw [Function.update_of_ne same, Function.update_of_ne same]
    exact h later other le

theorem Agree.put (h : Agree now s t) (at_ : Moment) (key : String) (v : Value) (ttl : Duration) :
    (s.put at_ key v ttl).1 = (t.put at_ key v ttl).1 ∧
      Agree now (s.put at_ key v ttl).2 (t.put at_ key v ttl).2 := by
  unfold Shelf.put
  split
  · exact ⟨rfl, h⟩
  · cases at_.add? ttl with
    | none => exact ⟨rfl, h⟩
    | some d => exact ⟨rfl, h.update key _⟩

end Shelf

/-- A store that takes everything that can be taken, and loses nothing before its time; `shelf`
is what it amounts to. -/
structure Keeper.Reliable {σ : Type} (k : Keeper σ) (shelf : σ → Shelf) : Prop where
  read : ∀ now key s, (∀ e, shelf s key = some e → e.isExpired now = false) →
    shelf (k.read now key s).2 = shelf s
  write : ∀ now key v ttl s, key ≠ "" → v.payload.utf8ByteSize < 18446744073709551616 →
    (∀ t, v.createdAt = some t → 0 ≤ t.seconds) → ∀ deadline, now.add? ttl = some deadline →
    shelf (k.write now key v ttl s).2 = Function.update (shelf s) key (some ⟨.ok v, some deadline⟩)

/-! ## The store in memory -/

namespace ByteMap

open ReadThrough.Shelf

variable {key : String}

theorem isEmpty_eq_false (some_key : key ≠ "") : key.isEmpty = false := by
  cases blank : key.isEmpty with
  | false => rfl
  | true => exact absurd (String.isEmpty_iff.1 blank) some_key

theorem readValue_eq (m : ByteMap) (now : Moment) (some_key : key ≠ "") :
    m.readValue now key = ((m.get (.still now) key).1.elim (.quiet (.ok none)) fun bytes =>
      ⟨(Codec.decodeEntry bytes).outcome.map some, (Codec.decodeEntry bytes).log⟩,
      (m.get (.still now) key).2) := by
  unfold readValue readValueBy ByteMap.read
  simp only [isEmpty_eq_false some_key, Bool.false_eq_true, if_false]
  cases m.get (.still now) key with
  | mk bytes m' => cases bytes <;> rfl

/-- A read finds what lies on the shelf. -/
theorem read_keeper (m : ByteMap) (now : Moment) (some_key : key ≠ "") :
    (keeper.read now key m).1 =
      ((ofBytes m).live? now key).elim (.ok none) fun e => e.content.map some := by
  simp only [keeper, readValue_eq m now some_key, TimedMap.get_fst, Readings.first_still,
    TimedMap.live?, live?, ofBytes]
  cases m.get? key with
  | none => rfl
  | some e =>
    -- Decoding leaves the deadline as it is.
    have same : Timed.isExpired ⟨(Codec.decodeEntry e.content).outcome, e.deadline⟩ now =
        e.isExpired now := rfl
    cases old : e.isExpired now <;> simp [Option.filter_some, same, old, Reply.quiet]

/-- A read changes nothing that could still be read. -/
theorem agree_read (m : ByteMap) (now : Moment) (some_key : key ≠ "") :
    Agree now (ofBytes (keeper.read now key m).2) (ofBytes m) := by
  intro later other le
  have seen : (ofBytes (keeper.read now key m).2) other =
      if other = key then (ofBytes m other).filter fun e => !e.isExpired now else ofBytes m other := by
    simp only [keeper, readValue_eq m now some_key, ofBytes]
    by_cases at_ : other = key
    · subst at_
      -- Decoding leaves the deadline as it is.
      rw [if_pos rfl, TimedMap.get?_get_self, Option.filter_map]
      rfl
    · rw [if_neg at_, TimedMap.get?_get_of_ne m (.still now) at_]
  unfold live?
  rw [seen]
  split
  case isFalse => rfl
  case isTrue => exact Timed.filter_filter le

/-- Where nothing has expired, a read changes nothing at all. -/
theorem read_keeper_snd (m : ByteMap) (now : Moment) (key : String)
    (fresh : ∀ e, ofBytes m key = some e → e.isExpired now = false) :
    (keeper.read now key m).2 = m := by
  have got : (m.get (.still now) key).2 = m := by
    unfold TimedMap.get
    cases here : m.get? key with
    | none => rfl
    | some e =>
      have live : e.isExpired now = false :=
        fresh ⟨(Codec.decodeEntry e.content).outcome, e.deadline⟩ (by rw [ofBytes, here]; rfl)
      simp [live]
  by_cases some_key : key = ""
  · simp [keeper, readValue, readValueBy, some_key]
  · simp only [keeper, readValue_eq m now some_key, got]

/-- A write puts the value on the shelf. -/
theorem write_keeper (m : ByteMap) (now : Moment) (some_key : key ≠ "") {v : Value}
    (fits : v.payload.utf8ByteSize < 18446744073709551616) (ttl : Duration) :
    (keeper.write now key v ttl m).1 = ((ofBytes m).put now key v ttl).1 ∧
      ofBytes (keeper.write now key v ttl m).2 = ((ofBytes m).put now key v ttl).2 := by
  unfold Shelf.put
  simp only [keeper, writeValue, writeValueBy, isEmpty_eq_false some_key, Bool.false_eq_true,
    if_false]
  rcases Codec.decodeEntry_of_encodeEntry v fits with ⟨bytes, written, read⟩ | ⟨unwritten, failed⟩
  · have late : ¬v.createdAt.any (·.seconds < 0) = true := by
      rw [← Codec.encodeTime?_eq_none_iff]
      intro unwritten
      simp [Codec.encodeEntry, Codec.Record.encode?, Codec.encodeValue?, unwritten, Reply.quiet]
        at written
    rw [if_neg late, written]
    simp only [Reply.quiet, ByteMap.write, TimedMap.insert?]
    cases now.add? ttl with
    | none => exact ⟨rfl, rfl⟩
    | some d =>
      refine ⟨rfl, ?_⟩
      funext other
      show ofBytes (Table.insert m key ⟨bytes, some d⟩) other =
        Function.update (ofBytes m) key (some ⟨.ok v, some d⟩) other
      unfold ofBytes
      rw [Table.get?_insert]
      by_cases at_ : other = key
      · rw [if_pos at_, at_, Function.update_self, Option.map_some, read]
        rfl
      · rw [if_neg at_, Function.update_of_ne at_]
  · rw [if_pos ((Codec.encodeTime?_eq_none_iff _).1 unwritten)]
    cases encoded : Codec.encodeEntry v with
    | mk outcome log =>
      rw [encoded] at failed
      cases failed
      exact ⟨rfl, rfl⟩

/-- The store in memory is reliable. -/
theorem reliable : keeper.Reliable ofBytes where
  read now key m fresh := congrArg ofBytes (read_keeper_snd m now key fresh)
  write now key v ttl m some_key fits since1970 deadline ends := by
    have late : ¬v.createdAt.any (·.seconds < 0) = true := by
      cases made : v.createdAt with
      | none => simp
      | some t =>
        have := since1970 t made
        simp only [Option.any_some, decide_eq_true_eq]
        omega
    rw [(write_keeper m now some_key fits ttl).2, Shelf.put, if_neg late, ends]

theorem delete_keeper (m : ByteMap) (now : Moment) (some_key : key ≠ "") :
    (keeper.delete now key m).1 = .ok () ∧
      ofBytes (keeper.delete now key m).2 = (ofBytes m).drop key := by
  simp only [keeper, deleteValue, deleteValueBy, isEmpty_eq_false some_key, Bool.false_eq_true,
    if_false]
  refine ⟨rfl, ?_⟩
  funext other
  show ofBytes (Table.erase m key) other = _
  unfold ofBytes Shelf.drop
  rw [Table.get?_erase]
  by_cases at_ : other = key
  · rw [if_pos at_, at_, Function.update_self, Option.map_none]
  · rw [if_neg at_, Function.update_of_ne at_]

end ByteMap

end ReadThrough
