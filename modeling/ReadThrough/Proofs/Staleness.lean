import ReadThrough.Value

/-!
# Staleness is exact

The judgement on a value is made of bounded things: the time it was written is a reading of a
clock with an end, the offset can be longer than what is left of that clock, and then there is
no reading for their sum. What is proved here is that none of these bounds can be seen from
outside. `isStale` says of every value what one line of arithmetic on integers says
(`OlderThan`): the time of the write and the offset, both in nanoseconds, add up to less than
the time now.

The one case that needs an argument is a sum past the end of the clock. There is no reading to
compare with then, and `isStale` says no; the integers say no as well, since every `now` is a
reading and so lies before the end (`Moment.toNanos_lt_end`).

That staleness only ever comes with time, only ever goes with a longer offset, and does not look
at the offset that does not apply is read off the integers.
-/

set_option autoImplicit false

namespace ReadThrough

/-- The end of the clock: the first number of nanoseconds that no reading shows. -/
def Moment.endNanos : Int := 9223372036854775808 * 1000000000

/-- Every reading lies before the end of the clock. -/
theorem Moment.toNanos_lt_end (m : Moment) : m.toNanos < Moment.endNanos := by
  have hs := m.seconds_lt
  have hn := m.nanos_lt
  simp only [toNanos, endNanos]
  omega

namespace Value

/-- The value was written, and more than `offset` before `now`, reckoned in integers. -/
def OlderThan (v : Value) (offset : Duration) (now : Moment) : Prop :=
  ∃ made, v.createdAt = some made ∧ made.toNanos + offset.toNanos < now.toNanos

/-- What is older than an offset at one time is older than any shorter one at any later time. -/
theorem OlderThan.mono {v : Value} {offset shorter : Duration} {now later : Moment}
    (h : v.OlderThan offset now) (ho : shorter.toNanos ≤ offset.toNanos) (ht : now ≤ later) :
    v.OlderThan shorter later := by
  obtain ⟨made, hmade, hold⟩ := h
  have hlater := (Moment.le_iff now later).1 ht
  exact ⟨made, hmade, by omega⟩

/-- Nothing is older than an offset that leads to the end of the clock or past it. -/
theorem not_olderThan_of_end_le {v : Value} {made now : Moment} {offset : Duration}
    (hmade : v.createdAt = some made)
    (hend : Moment.endNanos ≤ made.toNanos + offset.toNanos) : ¬v.OlderThan offset now := by
  rintro ⟨made', hmade', hold⟩
  obtain rfl : made = made' := Option.some.inj (hmade.symm.trans hmade')
  have hnow := now.toNanos_lt_end
  omega

/-- A value is judged stale exactly if it is older than the offset that applies. -/
theorem isStale_iff (v : Value) (normal fast : Duration) (now : Moment) :
    v.isStale normal fast now = true ↔ v.OlderThan (v.offset normal fast) now := by
  unfold isStale
  cases hmade : v.createdAt with
  | none => simp [OlderThan, hmade]
  | some made =>
    cases hsum : made.add? (v.offset normal fast) with
    | none =>
      have hend := (Moment.add?_eq_none_iff made _).1 hsum
      simp [hsum, not_olderThan_of_end_le hmade hend]
    | some limit =>
      have hlimit := Moment.toNanos_of_add? hsum
      simp [hsum, OlderThan, hmade, Moment.lt_iff, hlimit]

/-- The judgement on a value is one comparison of integers, whatever the offsets and the time. -/
structure JudgedExactly (v : Value) : Prop where
  /-- The value is stale exactly if it was written and the time of the write and the offset that
  applies add up to less than now. -/
  stale_iff : ∀ normal fast now, v.isStale normal fast now = true ↔
    v.OlderThan (if v.volatile then fast else normal) now
  /-- A sum that the clock has no reading for is no exception: the value is never stale. -/
  endless : ∀ made normal fast now, v.createdAt = some made →
    made.add? (if v.volatile then fast else normal) = none → v.isStale normal fast now = false
  /-- What is stale stays stale. -/
  later : ∀ normal fast now later, now ≤ later →
    v.isStale normal fast now = true → v.isStale normal fast later = true
  /-- What is stale is stale for whoever allows it no more time. -/
  sooner : ∀ normal fast normal' fast' now,
    (if v.volatile then fast' else normal').toNanos ≤
      (if v.volatile then fast else normal).toNanos →
    v.isStale normal fast now = true → v.isStale normal' fast' now = true
  /-- The offset that does not apply may be any other. -/
  other : ∀ normal fast now spare, v.isStale normal fast now =
    if v.volatile then v.isStale spare fast now else v.isStale normal spare now

/-- Every value is judged exactly: before 1970 and after, up to the last nanosecond of the clock
and with offsets that lead past it. -/
theorem isStale_exact (v : Value) : v.JudgedExactly where
  stale_iff := v.isStale_iff
  endless made normal fast now hmade hsum := by
    have hend := (Moment.add?_eq_none_iff made _).1 hsum
    have hnot : ¬v.OlderThan (v.offset normal fast) now := not_olderThan_of_end_le hmade hend
    rwa [← v.isStale_iff, Bool.not_eq_true] at hnot
  later normal fast now later hle hstale := by
    have hold := (v.isStale_iff normal fast now).1 hstale
    exact (v.isStale_iff normal fast later).2 (hold.mono (Nat.le_refl _) hle)
  sooner normal fast normal' fast' now hle hstale := by
    have hold := (v.isStale_iff normal fast now).1 hstale
    exact (v.isStale_iff normal' fast' now).2 (hold.mono hle now.le_refl)
  other normal fast now spare := by
    unfold isStale offset
    cases v.volatile <;> rfl

/-- A value written one nanosecond before 1970 is not stale at the very limit of its offset. -/
example : let made : Moment := ⟨-1, 999999999, by decide, by decide, by decide⟩
    (Value.stamped made "v" true).isStale .zero (.ofFraction 999999999)
      ⟨0, 999999998, by decide, by decide, by decide⟩ = false := by decide

end Value

end ReadThrough
