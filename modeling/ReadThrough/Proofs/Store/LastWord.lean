import Mathlib.Data.List.Induction
import ReadThrough.Proofs.Lists
import ReadThrough.Proofs.Store.Shelf

/-!
# The last word on a key

What is kept in memory after many calls is told here without any state. A call can have the last
word on a key in two ways, by writing a value under it or by deleting it. A read and a purge say
nothing, though both take entries out; nor does a write that fails, because the value was made
before 1970 or would expire past the end of the clock. Of the calls that say something about a key
the last one counts and no other (`lastWord?`), and if it was a write, then the value is there until
its lifetime is over (`told?`).

That the store answers just this is shown through the shelf. The calls are done on the bytes and
on a shelf side by side, and the two show the same from the moment of the last call on; what lies on
the shelf under a key is what the last word has left there.
-/

set_option autoImplicit false

namespace ReadThrough

/-! ## Calls and what they say -/

/-- A call of a store in memory. The length of a payload is a number of 64 bits. -/
inductive StoreCall where
  | write (key : String) (v : Value) (ttl : Duration)
      (fits : v.payload.utf8ByteSize < 18446744073709551616 := by decide)
  | read (key : String)
  | delete (key : String)
  | purge
  deriving DecidableEq, Repr

namespace StoreCall

/-- The key that the call is about; a purge is about none. -/
def key? : StoreCall → Option String
  | .write key .. | .read key | .delete key => some key
  | .purge => none

/-- What the store holds after the call. -/
def perform (now : Moment) (m : ByteMap) : StoreCall → ByteMap
  | .write key v ttl _ => (m.writeValue now key v ttl).2
  | .read key => (m.readValue now key).2
  | .delete key => (m.deleteValue key).2
  | .purge => (m.purge (.still now)).2

/-- The call says what a reader of the key is to find: it deletes the key, or it puts a value there
that was not made before 1970 and whose deadline is on the clock. -/
def tells (key : String) (now : Moment) : StoreCall → Bool
  | .write other v ttl _ =>
    other = key && v.createdAt.all (Moment.epoch ≤ ·) &&
      (now.toNanos + ttl.toNanos < 9223372036854775808 * 1000000000)
  | .delete other => other = key
  | .read _ | .purge => false

end StoreCall

/-- Calls, each with a reading of the monotonic clock. -/
abbrev Calls := List (Moment × StoreCall)

namespace Calls

/-- The clock never went back, and it shows `now`. -/
def InTime (calls : Calls) (now : Moment) : Prop :=
  (calls.map (·.1) ++ [now]).Pairwise (· ≤ ·)

instance (calls : Calls) (now : Moment) : Decidable (calls.InTime now) :=
  inferInstanceAs (Decidable (List.Pairwise _ _))

/-- The last call that says anything about a key. -/
def lastWord? (calls : Calls) (key : String) : Option (Moment × StoreCall) :=
  calls.reverse.find? fun c => c.2.tells key c.1

/-- What a reader is to find under a key: the value that was written last, until its lifetime is
over. -/
def told? (calls : Calls) (now : Moment) (key : String) : Option Value :=
  match calls.lastWord? key with
  | some (t, .write _ v ttl _) => if now.toNanos < t.toNanos + ttl.toNanos then some v else none
  | _ => none

/-- The calls about a key. -/
def about (calls : Calls) (key : String) : Calls := calls.filter fun c => c.2.key? = some key

end Calls

namespace ByteMap

/-- What the store holds after these calls. -/
def after (calls : Calls) : ByteMap := calls.foldl (fun m c => c.2.perform c.1 m) Table.empty

/-- After these calls the store is a map of values with lifetimes. -/
structure IsTimedMap (calls : Calls) (now : Moment) : Prop where
  /-- A read finds what the last word on the key has told, in every field, and nothing else. -/
  answer : ∀ key, key ≠ "" →
    ((after calls).readValue now key).1.outcome = .ok (calls.told? now key)
  /-- It finds the same if only the calls about this key have been made. -/
  others : ∀ key, key ≠ "" → ((after calls).readValue now key).1.outcome =
    ((after (calls.about key)).readValue now key).1.outcome
  /-- The empty key is refused, and nothing is changed. -/
  blank : (after calls).readValue now "" = (.quiet (.failed emptyKeyError), after calls) ∧
    (∀ v ttl, (after calls).writeValue now "" v ttl =
      (.quiet (.failed emptyKeyError), after calls)) ∧
    (after calls).deleteValue "" = (.failed emptyKeyError, after calls)
  /-- A value made before 1970 is refused, and nothing is changed. -/
  early : ∀ key v ttl, key ≠ "" → (∃ made, v.createdAt = some made ∧ made < Moment.epoch) →
    ((after calls).writeValue now key v ttl).1.outcome =
      .failed (.serialization Codec.unwritableText) ∧
    ((after calls).writeValue now key v ttl).2 = after calls
  /-- Any other value with a deadline past the end of the clock is a crash, and nothing is
  changed. -/
  late : ∀ key (v : Value) ttl, key ≠ "" →
    (∀ made, v.createdAt = some made → Moment.epoch ≤ made) →
    9223372036854775808 * 1000000000 ≤ now.toNanos + ttl.toNanos →
    ((after calls).writeValue now key v ttl).1.outcome = .crashed Moment.endCrash ∧
    ((after calls).writeValue now key v ttl).2 = after calls
  /-- Everything else is taken, and so is every deletion. -/
  taken : ∀ key, key ≠ "" → ((after calls).deleteValue key).1 = .ok () ∧
    ∀ (v : Value) ttl, (∀ made, v.createdAt = some made → Moment.epoch ≤ made) →
      now.toNanos + ttl.toNanos < 9223372036854775808 * 1000000000 →
      ((after calls).writeValue now key v ttl).1.outcome = .ok ()

end ByteMap

/-! ## The same calls on a shelf -/

namespace StoreCall

/-- What lies on the shelf after the call. Whatever takes only expired entries out changes
nothing. -/
def onShelf (now : Moment) (s : Shelf) : StoreCall → Shelf
  | .write key v ttl _ => if key = "" then s else (s.put now key v ttl).2
  | .delete key => if key = "" then s else s.drop key
  | .read _ | .purge => s

/-- What the call leaves under the key that it is about. -/
def leaves? (now : Moment) : StoreCall → Option (Timed (Outcome Value))
  | .write _ v ttl _ => some ⟨.ok v, now.add? ttl⟩
  | _ => none

end StoreCall

/-- What lies on the shelf after these calls. -/
def Shelf.after (calls : Calls) : Shelf := calls.foldl (fun s c => c.2.onShelf c.1 s) fun _ => none

variable {calls : Calls} {now t : Moment} {key : String}

theorem Shelf.after_append_singleton (calls : Calls) (c : Moment × StoreCall) :
    Shelf.after (calls ++ [c]) = c.2.onShelf c.1 (Shelf.after calls) :=
  List.foldl_append

theorem ByteMap.after_append_singleton (calls : Calls) (c : Moment × StoreCall) :
    ByteMap.after (calls ++ [c]) = c.2.perform c.1 (ByteMap.after calls) :=
  List.foldl_append

theorem Calls.InTime.about (h : calls.InTime now) (key : String) : (calls.about key).InTime now :=
  List.Pairwise.sublist ((List.filter_sublist.map _).append_right _) h

namespace ByteMap

open ReadThrough.Shelf

/-- Taking out what has expired changes nothing that could still be read. -/
theorem agree_purge (m : ByteMap) (now : Moment) :
    Agree now (ofBytes (m.purge (.still now)).2) (ofBytes m) := by
  intro later key le
  -- Decoding leaves the deadline as it is, so it does not matter which is done first.
  have purged : ofBytes (m.purge (.still now)).2 key =
      (ofBytes m key).filter fun e => !e.isExpired now := by
    rw [ofBytes, ofBytes, TimedMap.get?_purge, Option.filter_map]
    rfl
  unfold live?
  rw [purged]
  exact Timed.filter_filter le

/-- A call does to the bytes what it does to the shelf. -/
theorem agree_perform {m : ByteMap} {s : Shelf} (h : Agree t (ofBytes m) s) (c : StoreCall) :
    Agree t (ofBytes (c.perform t m)) (c.onShelf t s) := by
  cases c with
  | write key v ttl fits =>
    by_cases some_key : key = ""
    · simpa [StoreCall.perform, StoreCall.onShelf, some_key, writeValue, writeValueBy] using h
    · have written := (write_keeper m t some_key fits ttl).2
      show Agree t (ofBytes (keeper.write t key v ttl m).2) _
      rw [written, StoreCall.onShelf, if_neg some_key]
      exact (h.put t key v ttl).2
  | read key =>
    by_cases some_key : key = ""
    · simpa [StoreCall.perform, StoreCall.onShelf, some_key, readValue, readValueBy] using h
    · exact (agree_read m t some_key).trans h
  | delete key =>
    by_cases some_key : key = ""
    · simpa [StoreCall.perform, StoreCall.onShelf, some_key, deleteValue, deleteValueBy] using h
    · have deleted := (delete_keeper m t some_key).2
      show Agree t (ofBytes (keeper.delete t key m).2) _
      rw [deleted, StoreCall.onShelf, if_neg some_key]
      exact h.update key none
  | purge => exact (agree_purge m t).trans h

/-- From the last call on the bytes show what the shelf shows. -/
theorem agree_after (in_order : calls.InTime now) :
    Agree now (ofBytes (after calls)) (Shelf.after calls) := by
  induction calls using List.reverseRecOn generalizing now with
  | nil => exact Agree.refl now _
  | append_singleton calls c ih =>
    obtain ⟨before, le⟩ := pairwise_map_concat in_order
    rw [after_append_singleton, Shelf.after_append_singleton]
    exact (agree_perform (ih before) c.2).mono le

end ByteMap

/-! ## What the last word has left -/

/-- A write has a deadline on the clock and a value that was not made before 1970 if it is to tell
anything. -/
theorem StoreCall.tells_write {v : Value} {ttl : Duration}
    {fits : v.payload.utf8ByteSize < 18446744073709551616} :
    (write key v ttl fits).tells key now = true ↔
      (∀ made, v.createdAt = some made → Moment.epoch ≤ made) ∧ now.add? ttl ≠ none := by
  rw [Ne, Moment.add?_eq_none_iff, Int.not_le]
  simp only [tells, decide_true, Bool.true_and, Bool.and_eq_true, decide_eq_true_eq,
    Option.all_eq_true]

/-- After a call that has told something of a key, this lies there; any other call leaves what lay
there before. -/
theorem StoreCall.onShelf_apply (some_key : key ≠ "") (c : StoreCall) (s : Shelf) :
    c.onShelf t s key = if c.tells key t then c.leaves? t else s key := by
  cases c with
  | write other v ttl fits =>
    by_cases at_ : other = key
    · subst at_
      rw [onShelf, if_neg some_key]
      simp only [tells_write, ← Codec.encodeTime?_ne_none_iff, Ne, Codec.encodeTime?_eq_none_iff]
      unfold Shelf.put
      split
      case isTrue early => simp [early]
      case isFalse late =>
        cases ends : t.add? ttl with
        | none => simp
        | some d => simp [late, leaves?, ends]
    · have silent : (write other v ttl fits).tells key t = false := by simp [tells, at_]
      rw [silent, onShelf]
      split
      case isTrue => rfl
      case isFalse =>
        unfold Shelf.put
        split
        case isTrue => rfl
        case isFalse =>
          cases t.add? ttl with
          | none => rfl
          | some d => exact Function.update_of_ne (Ne.symm at_) _ s
  | delete other =>
    by_cases at_ : other = key
    · simp [onShelf, tells, at_, some_key, leaves?, Shelf.drop]
    · rw [onShelf]
      split
      case isTrue => simp [tells, at_]
      case isFalse => simp [tells, at_, Shelf.drop, Function.update_of_ne (Ne.symm at_)]
  | read | purge => rfl

theorem Calls.lastWord?_append_singleton (calls : Calls) (c : Moment × StoreCall) (key : String) :
    lastWord? (calls ++ [c]) key = if c.2.tells key c.1 then some c else calls.lastWord? key := by
  unfold lastWord?
  rw [List.reverse_append, List.reverse_singleton, List.singleton_append, List.find?_cons]
  cases c.2.tells key c.1 <;> rfl

theorem Shelf.after_apply (some_key : key ≠ "") (calls : Calls) :
    Shelf.after calls key = (calls.lastWord? key).bind fun c => c.2.leaves? c.1 := by
  induction calls using List.reverseRecOn with
  | nil => rfl
  | append_singleton calls c ih =>
    rw [after_append_singleton, StoreCall.onShelf_apply some_key, Calls.lastWord?_append_singleton, ih]
    cases c.2.tells key c.1 <;> rfl

/-- What reads as the last word on a key does not depend on calls about other keys. -/
theorem Calls.lastWord?_about (calls : Calls) (key : String) :
    (calls.about key).lastWord? key = calls.lastWord? key := by
  unfold lastWord? about
  rw [← List.filter_reverse, List.find?_filter]
  congr 1
  funext c
  obtain ⟨t, c⟩ := c
  cases c <;> simp +contextual [StoreCall.tells, StoreCall.key?]

/-- Nobody reads on the shelf what has not been told. -/
theorem Shelf.live?_after (some_key : key ≠ "") (calls : Calls) (now : Moment) :
    ((Shelf.after calls).live? now key).elim (.ok none) (fun e => e.content.map some) =
      .ok (calls.told? now key) := by
  rw [live?, after_apply some_key, Calls.told?]
  cases last : calls.lastWord? key with
  | none => rfl
  | some c =>
    have tells : c.2.tells key c.1 = true := by simpa using List.find?_some last
    obtain ⟨t, c⟩ := c
    cases c with
    | write other v ttl fits =>
      obtain rfl : other = key := by simp_all [StoreCall.tells]
      obtain ⟨-, ends⟩ := StoreCall.tells_write.1 tells
      obtain ⟨d, ends⟩ := Option.ne_none_iff_exists'.1 ends
      have sum := Moment.toNanos_of_add? ends
      simp only [Option.bind_some, StoreCall.leaves?, ends, Option.filter_some, Timed.isExpired,
        Option.any_some, Moment.le_iff, sum]
      by_cases live : now.toNanos < t.toNanos + ttl.toNanos
      · simp [live, Int.not_le.2 live, Outcome.map]
      · simp [live, Int.not_lt.1 live]
    | read | delete | purge => rfl

/-! ## What is written and what is not -/

namespace ByteMap

/-- A read finds what the last word on the key has told. -/
theorem readValue_after (in_order : calls.InTime now) (some_key : key ≠ "") :
    ((after calls).readValue now key).1.outcome = .ok (calls.told? now key) := by
  have same := agree_after in_order now key (Moment.le_refl now)
  have found := read_keeper (after calls) now some_key
  rw [same, Shelf.live?_after some_key] at found
  exact found

/-- A write goes no further than its value if that was made before 1970. -/
theorem writeValue_early (m : ByteMap) (now : Moment) (some_key : key ≠ "") {v : Value}
    (ttl : Duration) (early : Codec.encodeTime? v.createdAt = none) :
    (m.writeValue now key v ttl).1.outcome = .failed (.serialization Codec.unwritableText) ∧
      (m.writeValue now key v ttl).2 = m := by
  simp [writeValue, writeValueBy, isEmpty_eq_false some_key, Codec.encodeEntry,
    Codec.Record.encode?, Codec.encodeValue?, early]

theorem writeValue_of_encoded (m : ByteMap) (now : Moment) (some_key : key ≠ "") {v : Value}
    (ttl : Duration) {bytes : List UInt8} (encoded : (Codec.encodeEntry v).outcome = .ok bytes) :
    ((m.writeValue now key v ttl).1.outcome, (m.writeValue now key v ttl).2) =
      m.write now key (some ttl) bytes := by
  simp only [writeValue, writeValueBy, isEmpty_eq_false some_key, Bool.false_eq_true, if_false]
  cases reply : Codec.encodeEntry v with
  | mk outcome log =>
    rw [reply] at encoded
    cases encoded
    rfl

/-- Any other write goes as far as its deadline. -/
theorem writeValue_of_writable (m : ByteMap) (now : Moment) (some_key : key ≠ "") {v : Value}
    (ttl : Duration) (since1970 : ∀ made, v.createdAt = some made → Moment.epoch ≤ made) :
    ∃ bytes, ((m.writeValue now key v ttl).1.outcome, (m.writeValue now key v ttl).2) =
      m.write now key (some ttl) bytes := by
  obtain ⟨bytes, encoded⟩ := (Codec.exists_encodeEntry_iff v).2 since1970
  exact ⟨bytes, writeValue_of_encoded m now some_key ttl encoded⟩

/-- However the calls have gone, each key shows what the last word on it has told, and a call that
fails has changed nothing. -/
theorem is_timed_map (calls : Calls) (now : Moment) (in_order : calls.InTime now) :
    IsTimedMap calls now where
  answer key some_key := readValue_after in_order some_key
  others key some_key := by
    rw [readValue_after in_order some_key, readValue_after (in_order.about key) some_key,
      Calls.told?, Calls.told?, Calls.lastWord?_about]
  blank := ⟨rfl, fun _ _ => rfl, rfl⟩
  early key v ttl some_key early := by
    refine writeValue_early (after calls) now some_key ttl (not_not.1 fun writable => ?_)
    obtain ⟨made, dated, before⟩ := early
    exact (Codec.encodeTime?_ne_none_iff _).1 writable made dated before
  late key v ttl some_key since1970 beyond := by
    obtain ⟨bytes, written⟩ := writeValue_of_writable (after calls) now some_key ttl since1970
    rw [ByteMap.write, TimedMap.insert?, (Moment.add?_eq_none_iff now ttl).2 beyond] at written
    exact Prod.ext_iff.1 written
  taken key some_key := by
    refine ⟨(delete_keeper (after calls) now some_key).1, fun v ttl since1970 within => ?_⟩
    obtain ⟨bytes, written⟩ := writeValue_of_writable (after calls) now some_key ttl since1970
    obtain ⟨deadline, ends⟩ := Option.ne_none_iff_exists'.1
      (mt (Moment.add?_eq_none_iff now ttl).1 (Int.not_le.2 within))
    rw [ByteMap.write, TimedMap.insert?, ends] at written
    exact (Prod.ext_iff.1 written).1

/-- A value is written for a minute, and a value from before 1970 does not replace it; another key
is written and deleted. The first value is there in the last nanosecond of the minute and gone
when the minute is over. -/
theorem is_timed_map_minute :
    let v : Value := ⟨some (.ofSeconds 1700000000), true, false, "one"⟩
    let old : Value := ⟨some (.ofSeconds (-1)), false, false, "two"⟩
    let calls : Calls :=
      [(.ofSeconds 0, .write "a" v (.ofSeconds 60)), (.ofSeconds 1, .write "a" old (.ofSeconds 900)),
        (.ofSeconds 2, .write "b" v (.ofSeconds 900)), (.ofSeconds 3, .delete "b"),
        (.ofSeconds 4, .read "a"), (.ofSeconds 5, .purge)]
    let last : Moment := ⟨59, 999999999, by decide, by decide, by decide⟩
    (calls.InTime last ∧ calls.InTime (.ofSeconds 60)) ∧
      ((after calls).readValue last "a").1.outcome = .ok (some v) ∧
      ((after calls).readValue last "b").1.outcome = .ok none ∧
      ((after calls).readValue (.ofSeconds 60) "a").1.outcome = .ok none := by
  intro v old calls last
  have within : calls.InTime last := by decide
  have after : calls.InTime (.ofSeconds 60) := by decide
  have first : calls.told? last "a" = some v := by decide
  have deleted : calls.told? last "b" = none := by decide
  have gone : calls.told? (.ofSeconds 60) "a" = none := by decide
  rw [(is_timed_map calls last within).answer "a" (by decide), first,
    (is_timed_map calls last within).answer "b" (by decide), deleted,
    (is_timed_map calls _ after).answer "a" (by decide), gone]
  exact ⟨⟨within, after⟩, rfl, rfl, rfl⟩

end ByteMap

end ReadThrough
