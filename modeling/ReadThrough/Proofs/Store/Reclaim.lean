import Mathlib.Data.List.Basic
import Mathlib.Data.List.Induction
import ReadThrough.Proofs.Lists
import ReadThrough.Store.Values

/-!
# Taking out what has expired

A map of bytes takes expired entries out in two ways, all of them at once when it is told to purge
and one of them whenever somebody reads a key and meets it. What is left in the map therefore hangs
on who has read and purged and when. What can be seen of it does not: it is fixed by the orders
alone, that is by the writes and deletions, of which a write that goes past the end of the clock is
none. The last order about a key says what lies there, since when, and for how long (`written?`).

The map and the orders are compared by `Shows`. An entry is in the map as it was written last, or it
is missing from the map and has expired. Every call keeps this, whatever it takes out, and so do
further readings of a clock that does not go back, for what has expired stays expired. What a reader
is told, and what somebody is told who asks how long an entry has left, is then read off the orders.
So whatever questions and purges are put in among other calls, all the other questions are answered
as they were (`PutIn.answersFrom`).

The clock may also go on while a call is under way, and each call has readings of its own. For most
of what is said here that makes no difference: a read goes by its first reading, and a purge judges
each entry by the reading at which it comes to it. It makes one for the rest of a lifetime. The
question is not answered for an entry that had expired at the first reading, but the rest is
reckoned by the last, so an entry that expires in between is said to have a rest of nothing. The
rest is therefore described for any readings first, and then for a clock that stands still during
the call, when there always is one.
-/

set_option autoImplicit false

namespace ReadThrough

/-! ## Calls -/

/-- A call of a map of bytes. -/
inductive MapCall where
  | set (key : String) (bytes : List UInt8) (ttl : Option Duration)
  | get (key : String)
  | delete (key : String)
  | remaining (key : String)
  | purge
  deriving DecidableEq, Repr

/-- Calls, each with its readings of the monotonic clock. -/
abbrev MapCalls := List (Readings × MapCall)

/-- A write, by what it has put where it was put: the bytes, the moment, and the lifetime from then
on, which ends on the clock. -/
structure Written where
  bytes : List UInt8
  time : Moment
  ttl : Option Duration
  ends : ∀ d ∈ ttl, time.toNanos + d.toNanos < 9223372036854775808 * 1000000000

namespace Written

/-- The lifetime is not over yet. -/
def Lasts (w : Written) (now : Moment) : Prop :=
  ∀ d ∈ w.ttl, now.toNanos < w.time.toNanos + d.toNanos

/-- The entry that is made of it. -/
def entry (w : Written) : Timed (List UInt8) := ⟨w.bytes, w.ttl.bind w.time.add?⟩

end Written

namespace MapCall

/-- What the map holds after the call. A write reads the clock once. -/
def perform (now : Readings) (m : ByteMap) : MapCall → ByteMap
  | .set key bytes ttl => (ByteMap.write now.first key ttl bytes m).2
  | .get key => (ByteMap.read now key m).2
  | .delete key => (ByteMap.delete key m).2
  | .remaining _ => m
  | .purge => (m.purge now).2

/-- The call says what is to lie under a key. The others ask, or tidy up. -/
def isOrder : MapCall → Bool
  | .set .. | .delete _ => true
  | .get _ | .remaining _ | .purge => false

/-- What a question is answered with. -/
inductive Answer where
  | read (found : Outcome (Option (List UInt8)))
  | rest (left : Option Duration)
  deriving Repr

/-- The answer, if the call is a question. -/
def answer? (now : Readings) (m : ByteMap) : MapCall → Option Answer
  | .get key => some (.read (ByteMap.read now key m).1)
  | .remaining key => some (.rest (m.remaining? now key))
  | .set .. | .delete _ | .purge => none

/-- What has been written under a key last, when this call has been made at `now` after `before` had
been written there. -/
def leaves (now : Moment) (key : String) (before : Option Written) : MapCall → Option Written
  | .set other bytes ttl =>
    if other = key then
      if ends : ∀ d ∈ ttl, now.toNanos + d.toNanos < 9223372036854775808 * 1000000000 then
        some ⟨bytes, now, ttl, ends⟩
      else before
    else before
  | .delete other => if other = key then none else before
  | .get _ | .remaining _ | .purge => before

end MapCall

namespace MapCalls

/-- The clock never went back, neither during a call nor from one to the next, nor up to the
readings of one more call. -/
def InTime (calls : MapCalls) (now : Readings) : Prop :=
  (calls.map (·.1) ++ [now]).Pairwise (·.last ≤ ·.first)

instance (calls : MapCalls) (now : Readings) : Decidable (calls.InTime now) :=
  inferInstanceAs (Decidable (List.Pairwise _ _))

/-- What the map holds after these calls. -/
def after (calls : MapCalls) : ByteMap := calls.foldl (fun m c => c.2.perform c.1 m) Table.empty

/-- The questions among the calls, each with its readings and its answer, as they are asked of a map
one after another. -/
def answersFrom (m : ByteMap) : MapCalls → List (Readings × MapCall × MapCall.Answer)
  | [] => []
  | (r, c) :: rest =>
    ((c.answer? r m).map fun answer => (r, c, answer)).toList ++ answersFrom (c.perform r m) rest

/-- The questions among the calls, and what has been answered. -/
def answers (calls : MapCalls) : List (Readings × MapCall × MapCall.Answer) :=
  answersFrom Table.empty calls

/-- The second calls are the first with questions and purges put in, anywhere. -/
inductive PutIn : MapCalls → MapCalls → Prop
  | nil : PutIn [] []
  | keep {calls more : MapCalls} (c : Readings × MapCall) : PutIn calls more →
      PutIn (c :: calls) (c :: more)
  | extra {calls more : MapCalls} (c : Readings × MapCall) : c.2.isOrder = false →
      PutIn calls more → PutIn calls (c :: more)

/-- The orders among the calls, each with its readings. -/
def orders (calls : MapCalls) : MapCalls := calls.filter (·.2.isOrder)

end MapCalls

namespace MapCalls

end MapCalls

/-! ## What has been written, as an entry -/

namespace Written

variable (w : Written) (now : Moment)

theorem exists_deadline {d : Duration} (given : w.ttl = some d) :
    ∃ deadline, w.entry.deadline = some deadline ∧
      deadline.toNanos = w.time.toNanos + d.toNanos := by
  have within : ¬w.time.add? d = none := by
    rw [Moment.add?_eq_none_iff, Int.not_le]
    exact w.ends d given
  obtain ⟨deadline, sum⟩ := Option.ne_none_iff_exists'.1 within
  exact ⟨deadline, by rw [entry, given]; exact sum, Moment.toNanos_of_add? sum⟩

/-- An entry without a lifetime has no deadline. -/
theorem deadline_of_none (endless : w.ttl = none) : w.entry.deadline = none := by
  rw [entry, endless]
  rfl

/-- The entry has expired exactly when its lifetime is over. -/
theorem lasts_iff : w.Lasts now ↔ w.entry.isExpired now = false := by
  unfold Lasts Timed.isExpired
  cases given : w.ttl with
  | none => simp [w.deadline_of_none given]
  | some d =>
    obtain ⟨deadline, there, sum⟩ := w.exists_deadline given
    simp [there, Moment.le_iff, sum]

/-- What an entry has left is its lifetime less its age, and nothing when it has outlived that. -/
theorem toNanos_rest {ttl d : Duration} (given : w.ttl = some ttl)
    (rest : w.entry.deadline.map (·.since now) = some d) :
    (d.toNanos : Int) = max 0 (ttl.toNanos - (now.toNanos - w.time.toNanos)) := by
  obtain ⟨deadline, there, sum⟩ := w.exists_deadline given
  rw [there, Option.map_some, Option.some.injEq] at rest
  rw [← rest, Moment.toNanos_since]
  omega

end Written

theorem MapCall.leaves_set {key : String} {bytes : List UInt8} {ttl : Option Duration}
    {now : Moment}
    (ends : ∀ d ∈ ttl, now.toNanos + d.toNanos < 9223372036854775808 * 1000000000)
    (before : Option Written) :
    (MapCall.set key bytes ttl).leaves now key before = some ⟨bytes, now, ttl, ends⟩ := by
  rw [leaves, if_pos rfl, dif_pos ends]

/-- What would end past the end of the clock is not written. -/
theorem MapCall.leaves_set_of_late {key : String} {bytes : List UInt8} {ttl : Option Duration}
    {now : Moment}
    (late : ¬∀ d ∈ ttl, now.toNanos + d.toNanos < 9223372036854775808 * 1000000000) (other : String)
    (before : Option Written) : (MapCall.set key bytes ttl).leaves now other before = before := by
  rw [leaves, dif_neg late, ite_self]

/-! ## The map and the orders -/

/-- An entry lies in the map as it was written last, or is missing and has expired. -/
def Shows (now : Moment) (m : ByteMap) (written : String → Option Written) : Prop :=
  ∀ key, m.get? key = (written key).map Written.entry ∨
    (m.get? key = none ∧ ∀ w ∈ written key, w.entry.isExpired now = true)

namespace Shows

variable {now later : Moment} {r : Readings} {m : ByteMap} {written : String → Option Written}

theorem mono (h : Shows now m written) (le : now ≤ later) : Shows later m written := by
  intro key
  rcases h key with there | ⟨missing, expired⟩
  · exact .inl there
  · exact .inr ⟨missing, fun w last => Timed.isExpired_of_le (expired w last) le⟩

/-- What has not expired is in the map as it was written. -/
theorem fresh (h : Shows now m written) (key : String) :
    (m.get? key).filter (!·.isExpired now) =
      ((written key).map Written.entry).filter (!·.isExpired now) := by
  rcases h key with there | ⟨missing, expired⟩
  · rw [there]
  · rw [missing]
    cases last : written key with
    | none => rfl
    | some w => simp [expired w last, Option.filter_some]

/-- Entries may be taken out that had expired by now, or already some time before. -/
theorem reclaim (h : Shows now m written) {m' : ByteMap}
    (taken : ∀ key, m'.get? key = m.get? key ∨
      ∃ t, t ≤ now ∧ m'.get? key = (m.get? key).filter (!·.isExpired t)) : Shows now m' written := by
  intro key
  rcases taken key with same | ⟨t, le, filtered⟩
  · rw [same]
    exact h key
  · rcases h key with there | ⟨missing, expired⟩
    · rw [filtered, there]
      cases last : written key with
      | none => exact .inl rfl
      | some w =>
        cases old : w.entry.isExpired t with
        | false => exact .inl (by simp [old, Option.filter_some])
        | true =>
          have expired := Timed.isExpired_of_le old le
          exact .inr (by simp [old, expired, Option.filter_some])
    · exact .inr ⟨by rw [filtered, missing]; rfl, expired⟩

/-- One key is given something else, and the others are left alone. -/
theorem change (h : Shows now m written) {m' : ByteMap} {written' : String → Option Written}
    (key : String) (self : m'.get? key = (written' key).map Written.entry)
    (others : ∀ other, other ≠ key →
      m'.get? other = m.get? other ∧ written' other = written other) : Shows now m' written' := by
  intro other
  by_cases at_ : other = key
  · subst at_
    exact .inl self
  · rw [(others other at_).1, (others other at_).2]
    exact h other

/-- Every call does to the map what it does to what has been written, or takes out what nobody can
read. The map is compared at the last reading, for a purge goes by readings that come after the
first. -/
theorem perform (h : Shows r.first m written) (c : MapCall) :
    Shows r.last (c.perform r m) fun key => c.leaves r.first key (written key) := by
  replace h := h.mono r.first_le_last
  cases c with
  | set key bytes ttl =>
    by_cases ends : ∀ d ∈ ttl, r.first.toNanos + d.toNanos < 9223372036854775808 * 1000000000
    · have put : (MapCall.set key bytes ttl).perform r m =
          m.insert key (Written.entry ⟨bytes, r.first, ttl, ends⟩) := by
        cases ttl with
        | none => rfl
        | some d =>
          obtain ⟨deadline, there, -⟩ := Written.exists_deadline ⟨bytes, r.first, some d, ends⟩ rfl
          have sum : r.first.add? d = some deadline := there
          simp [MapCall.perform, ByteMap.write, TimedMap.insert?, sum, Written.entry]
      rw [put]
      refine h.change key ?_ fun other at_ => ⟨?_, ?_⟩
      · rw [MapCall.leaves_set ends, Table.get?_insert, if_pos rfl, Option.map_some]
      · rw [Table.get?_insert, if_neg at_]
      · simp [MapCall.leaves, Ne.symm at_]
    · have kept : (MapCall.set key bytes ttl).perform r m = m := by
        cases ttl with
        | none => exact (ends nofun).elim
        | some d =>
          have late : r.first.add? d = none := by
            refine (r.first.add?_eq_none_iff d).2 (Int.not_lt.1 fun early => ends ?_)
            rintro _ ⟨⟩
            exact early
          rw [MapCall.perform, ByteMap.write, TimedMap.insert?, late]
          rfl
      rw [kept]
      simp only [MapCall.leaves_set_of_late ends]
      exact h
  | delete key =>
    refine h.change key ?_ fun other at_ => ⟨?_, ?_⟩
    · simp [MapCall.perform, ByteMap.delete, Table.get?_erase, MapCall.leaves]
    · simp [MapCall.perform, ByteMap.delete, Table.get?_erase, at_]
    · simp [MapCall.leaves, Ne.symm at_]
  | get key =>
    refine h.reclaim fun other => ?_
    by_cases at_ : other = key
    · subst at_
      exact .inr ⟨r.first, r.first_le_last, TimedMap.get?_get_self m r other⟩
    · exact .inl (TimedMap.get?_get_of_ne m r at_)
  | purge => exact h.reclaim fun key => .inr ⟨r.entry key, r.le_last key, m.get?_purge r key⟩
  | remaining key => exact h

end Shows

namespace MapCalls

variable {calls : MapCalls} {now : Readings}

end MapCalls

/-! ## What is seen of it -/

/-- A read finds what has not expired at its first reading. -/
theorem ByteMap.read_fst (now : Readings) (key : String) (m : ByteMap) :
    (ByteMap.read now key m).1 = .ok (m.live? now.first key) :=
  congrArg Outcome.ok (TimedMap.get_fst m now key)

namespace Shows

variable {now : Moment} {r : Readings} {m : ByteMap} {written : String → Option Written}

/-- What can be read under a key is what has been written there last and has not expired. -/
theorem readable_iff (h : Shows now m written) (key : String) (e : Timed (List UInt8)) :
    (m.get? key).filter (!·.isExpired now) = some e ↔
      ∃ w, written key = some w ∧ w.Lasts now ∧ w.entry = e := by
  rw [h.fresh key, Option.filter_eq_some_iff]
  constructor
  · rintro ⟨at_, live⟩
    obtain ⟨w, last, rfl⟩ := Option.map_eq_some_iff.1 at_
    exact ⟨w, last, (w.lasts_iff now).2 (by simpa using live), rfl⟩
  · rintro ⟨w, last, lasts, rfl⟩
    exact ⟨by rw [last, Option.map_some], by simpa using (w.lasts_iff now).1 lasts⟩

theorem remaining?_iff (h : Shows r.first m written) (key : String) (d : Duration) :
    m.remaining? r key = some d ↔ ∃ w, written key = some w ∧ w.Lasts r.first ∧
      w.entry.deadline.map (·.since r.last) = some d := by
  rw [TimedMap.remaining?, Option.bind_eq_some_iff]
  constructor
  · rintro ⟨e, there, rest⟩
    obtain ⟨w, last, lasts, rfl⟩ := (h.readable_iff key e).1 there
    exact ⟨w, last, lasts, rest⟩
  · rintro ⟨w, last, lasts, rest⟩
    exact ⟨w.entry, (h.readable_iff key _).2 ⟨w, last, lasts, rfl⟩, rest⟩

/-- What is told of it. That the lifetime was not over goes by the first reading, and what is left
of it by the last. -/
theorem remaining? (h : Shows r.first m written) {key : String} {d : Duration}
    (left : m.remaining? r key = some d) :
    ∃ w ttl, written key = some w ∧ w.ttl = some ttl ∧ w.Lasts r.first ∧
      (d.toNanos : Int) = max 0 (ttl.toNanos - (r.last.toNanos - w.time.toNanos)) := by
  obtain ⟨w, last, lasts, rest⟩ := (h.remaining?_iff key d).1 left
  obtain ⟨ttl, given⟩ : ∃ ttl, w.ttl = some ttl := Option.ne_none_iff_exists'.1 fun endless => by
    rw [w.deadline_of_none endless] at rest
    cases rest
  exact ⟨w, ttl, last, given, lasts, w.toNanos_rest r.last given rest⟩

/-- Maps that show the same orders answer alike. -/
theorem answer?_eq (h : Shows r.first m written) {m' : ByteMap} (h' : Shows r.first m' written)
    (c : MapCall) : c.answer? r m = c.answer? r m' := by
  cases c with
  | set | delete | purge => rfl
  | get key =>
    rw [MapCall.answer?, MapCall.answer?, ByteMap.read_fst, ByteMap.read_fst, TimedMap.live?,
      TimedMap.live?, h.fresh, h'.fresh]
  | remaining key =>
    rw [MapCall.answer?, MapCall.answer?, TimedMap.remaining?, TimedMap.remaining?, h.fresh,
      h'.fresh]

end Shows

namespace Table

end Table

/-! ## Purges -/

namespace ByteMap

variable (m : ByteMap) (now : Readings)

variable {m now} {key : String}

end ByteMap

namespace MapCalls

/-- What is no order says nothing about what is written. -/
theorem leaves_of_not_isOrder {c : MapCall} (other : c.isOrder = false) (now : Moment) (key : String)
    (before : Option Written) : c.leaves now key before = before := by
  cases c with
  | set | delete => cases other
  | get | remaining | purge => rfl

/-- Whatever is put in, two maps that show the same orders go on answering alike. -/
theorem PutIn.answersFrom {calls more : MapCalls} (put_in : PutIn calls more)
    (in_order : (more.map (·.1)).Pairwise (·.last ≤ ·.first)) {m m' : ByteMap}
    {written : String → Option Written} (h : ∀ c ∈ more, Shows c.1.first m written)
    (h' : ∀ c ∈ more, Shows c.1.first m' written) :
    (answersFrom m calls).Sublist (answersFrom m' more) := by
  induction put_in generalizing m m' written with
  | nil => exact List.Sublist.refl _
  | @keep calls more c put_in ih =>
    obtain ⟨first, in_order⟩ := List.pairwise_cons.1 in_order
    have shown := h c List.mem_cons_self
    have shown' := h' c List.mem_cons_self
    have le : ∀ d ∈ more, c.1.last ≤ d.1.first := fun d mem => first d.1 (List.mem_map_of_mem mem)
    have rest := ih in_order (fun d mem => (shown.perform c.2).mono (le d mem))
      fun d mem => (shown'.perform c.2).mono (le d mem)
    simp only [MapCalls.answersFrom]
    rw [shown.answer?_eq shown']
    exact List.Sublist.append_left rest _
  | @extra calls more c other put_in ih =>
    obtain ⟨first, in_order⟩ := List.pairwise_cons.1 in_order
    have shown' := (h' c List.mem_cons_self).perform c.2
    simp only [leaves_of_not_isOrder other] at shown'
    have le : ∀ d ∈ more, c.1.last ≤ d.1.first := fun d mem => first d.1 (List.mem_map_of_mem mem)
    have rest := ih in_order (fun d mem => h d (List.mem_cons_of_mem c mem))
      fun d mem => shown'.mono (le d mem)
    exact rest.trans (List.sublist_append_right _ _)

end MapCalls

end ReadThrough
