import ReadThrough.Time.Duration

/-!
# Points on a clock

A `Moment` is a reading of a clock: whole seconds, signed and in 64 bits, and a fraction in
nanoseconds that always counts forward, so one nanosecond before second zero is second `-1`
and `999999999` nanoseconds. Two clocks are read this way. The wall clock counts from the start
of 1970 and dates stored values; the monotonic clock counts from some fixed start, never goes
back, and decides when an entry expires.

The range is finite, so adding a duration can fail (`add?`). What such a failure means is for
the caller to say: a value whose staleness lies beyond the end of the clock is never stale,
while an entry whose deadline lies there cannot be written.
-/

set_option autoImplicit false

namespace ReadThrough

/-- A reading of a clock. -/
structure Moment where
  seconds : Int
  nanos : Nat
  le_seconds : -9223372036854775808 ≤ seconds := by decide
  seconds_lt : seconds < 9223372036854775808 := by decide
  nanos_lt : nanos < 1000000000 := by decide
  deriving Repr

namespace Moment

/-- A reading at the start of a second. -/
def ofSeconds (n : Int) (h : -9223372036854775808 ≤ n := by decide)
    (h' : n < 9223372036854775808 := by decide) : Moment :=
  ⟨n, 0, h, h', Duration.zero_nanos_lt⟩

/-- Second zero: on the wall clock, the start of 1970. -/
def epoch : Moment := ofSeconds 0

instance : Inhabited Moment := ⟨epoch⟩

/-- The reading as one signed number of nanoseconds. -/
def toNanos (m : Moment) : Int := m.seconds * 1000000000 + m.nanos

/-- The number tells readings apart. -/
theorem toNanos_inj (a b : Moment) : a.toNanos = b.toNanos ↔ a = b := by
  refine ⟨fun h => ?_, fun h => h ▸ rfl⟩
  obtain ⟨s, n, _, _, hn⟩ := a
  obtain ⟨t, k, _, _, hk⟩ := b
  simp only [toNanos] at h
  obtain rfl : s = t := by omega
  obtain rfl : n = k := by omega
  rfl

instance : DecidableEq Moment := fun a b => decidable_of_iff _ (toNanos_inj a b)

/-- A reading from seconds and any number of nanoseconds, which carry into the seconds. There
is none if the seconds then leave the clock. -/
def ofParts? (seconds : Int) (nanos : Nat) : Option Moment :=
  if h : -9223372036854775808 ≤ seconds + (nanos / 1000000000 : Nat)
      ∧ seconds + (nanos / 1000000000 : Nat) < 9223372036854775808 then
    some ⟨seconds + (nanos / 1000000000 : Nat), nanos % 1000000000, h.1, h.2,
      Duration.nanos_mod_lt nanos⟩
  else none

theorem toNanos_of_ofParts? {s : Int} {n : Nat} {m : Moment} (h : ofParts? s n = some m) :
    m.toNanos = s * 1000000000 + n := by
  unfold ofParts? at h
  split at h
  · cases h
    simp only [toNanos]
    omega
  · contradiction

/-- The reading `d` later, if the clock goes that far. -/
def add? (m : Moment) (d : Duration) : Option Moment :=
  ofParts? (m.seconds + d.seconds) (m.nanos + d.nanos)

/-- The wording of the crash where a reading past the end of the clock is asked for. -/
def endCrash : String := "overflow when adding duration to instant"

/-- A later reading is later by exactly the duration. -/
theorem toNanos_of_add? {m later : Moment} {d : Duration} (h : m.add? d = some later) :
    later.toNanos = m.toNanos + d.toNanos := by
  rw [toNanos_of_ofParts? h]
  simp only [toNanos, Duration.toNanos]
  omega

/-- The clock does not go that far exactly if the sum lies beyond its last second. -/
theorem add?_eq_none_iff (m : Moment) (d : Duration) :
    m.add? d = none ↔ 9223372036854775808 * 1000000000 ≤ m.toNanos + d.toNanos := by
  have h1 := m.le_seconds
  have h2 := m.nanos_lt
  have h3 := d.nanos_lt
  simp only [add?, ofParts?, toNanos, Duration.toNanos]
  split <;> simp <;> omega

/-- The reading `ms` milliseconds later. A clock that has come to its end stays there. -/
def afterMillis (m : Moment) (ms : Nat) : Moment :=
  (ofParts? (m.seconds + (ms / 1000 : Nat)) (m.nanos + ms % 1000 * 1000000)).getD
    ⟨9223372036854775807, 999999999, by decide, by decide, by decide⟩

/-- Earlier on the clock: by the seconds, and within one second by the fraction. -/
instance : LT Moment :=
  ⟨fun a b => a.seconds < b.seconds ∨ (a.seconds = b.seconds ∧ a.nanos < b.nanos)⟩

/-- Not later on the clock. -/
instance : LE Moment := ⟨fun a b => ¬b < a⟩

instance (a b : Moment) : Decidable (a < b) := inferInstanceAs (Decidable (_ ∨ _))

instance (a b : Moment) : Decidable (a ≤ b) := inferInstanceAs (Decidable (¬_))

theorem lt_iff (a b : Moment) : a < b ↔ a.toNanos < b.toNanos := by
  have ha := a.nanos_lt
  have hb := b.nanos_lt
  show (_ ∨ _) ↔ _
  simp only [toNanos]
  omega

theorem le_iff (a b : Moment) : a ≤ b ↔ a.toNanos ≤ b.toNanos := by
  show ¬b < a ↔ _
  rw [lt_iff]
  omega

theorem le_refl (a : Moment) : a ≤ a := (le_iff a a).2 (Int.le_refl _)

theorem le_trans {a b c : Moment} (hab : a ≤ b) (hbc : b ≤ c) : a ≤ c := by
  rw [le_iff] at *
  omega

/-- The time from `earlier` to `later`; none has passed if `later` is not later. -/
def since (later earlier : Moment) : Duration :=
  let gap := (later.toNanos - earlier.toNanos).toNat
  ⟨gap / 1000000000, gap % 1000000000, by
    have h1 := later.seconds_lt
    have h2 := later.nanos_lt
    have h3 := earlier.le_seconds
    have hgap : gap = (later.toNanos - earlier.toNanos).toNat := rfl
    simp only [toNanos] at hgap
    omega, Duration.nanos_mod_lt gap⟩

/-- As numbers, the time between two readings is the difference, and never below zero. -/
theorem toNanos_since (later earlier : Moment) :
    (later.since earlier).toNanos = (later.toNanos - earlier.toNanos).toNat := by
  simp only [since, Duration.toNanos]
  omega

/-- The time since second zero, for a reading not before it. -/
def sinceEpoch? (m : Moment) : Option Duration :=
  if 0 ≤ m.seconds then some (m.since epoch) else none

end Moment

end ReadThrough
