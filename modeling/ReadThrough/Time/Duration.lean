/-!
# Durations

A duration is a length of time, never negative: whole seconds below `2 ^ 64` and a fraction in
nanoseconds. Both bounds are fields of the type, so an operation that could leave them has to
say what happens there, and a reader of a policy never meets a duration outside them.

Arithmetic is done on `toNanos`, the one number that a duration denotes. The two parts exist
because durations are written down and compared part by part; `toNanos` exists because laws
about time are laws about numbers.
-/

set_option autoImplicit false

namespace ReadThrough

/-- A length of time: whole seconds and a fraction below one second. -/
structure Duration where
  seconds : Nat
  nanos : Nat
  seconds_lt : seconds < 18446744073709551616 := by decide
  nanos_lt : nanos < 1000000000 := by decide
  deriving DecidableEq, Repr

namespace Duration

/-- The whole length in nanoseconds. -/
def toNanos (d : Duration) : Nat := d.seconds * 1000000000 + d.nanos

/-- What is left of a number of nanoseconds after its whole seconds is a fraction. -/
theorem nanos_mod_lt (n : Nat) : n % 1000000000 < 1000000000 := Nat.mod_lt _ (by decide)

/-- No nanoseconds are a fraction too. -/
theorem zero_nanos_lt : 0 < 1000000000 := by decide

/-- No seconds are a number of seconds too. -/
theorem zero_seconds_lt : 0 < 18446744073709551616 := by decide

/-- A length given in nanoseconds, if it fits. -/
def ofNanos? (n : Nat) : Option Duration :=
  if h : n / 1000000000 < 18446744073709551616 then
    some ⟨n / 1000000000, n % 1000000000, h, nanos_mod_lt n⟩
  else none

/-- A length of whole seconds. -/
def ofSeconds (n : Nat) (h : n < 18446744073709551616 := by decide) : Duration :=
  ⟨n, 0, h, zero_nanos_lt⟩

/-- A length below one second, in nanoseconds. -/
def ofFraction (n : Nat) (h : n < 1000000000 := by decide) : Duration :=
  ⟨0, n, zero_seconds_lt, h⟩

/-- No time at all. -/
def zero : Duration := ofSeconds 0

instance : Inhabited Duration := ⟨zero⟩

/-- Whether the length is exactly zero. -/
def isZero (d : Duration) : Bool := d.toNanos == 0

/-- Whole milliseconds, what is left of the last one cut off. -/
def millis (d : Duration) : Nat := d.toNanos / 1000000

/-- The first whole millisecond at or after the length: a clock that ticks in milliseconds
notices the end of the duration there and not before. -/
def millisUp (d : Duration) : Nat := (d.toNanos + 999999) / 1000000

@[simp] theorem toNanos_zero : zero.toNanos = 0 := rfl

/-- The two parts are read back from the number. -/
theorem ofNanos?_toNanos (d : Duration) : ofNanos? d.toNanos = some d := by
  obtain ⟨s, n, hs, hn⟩ := d
  have h1 : (s * 1000000000 + n) / 1000000000 = s := by omega
  have h2 : (s * 1000000000 + n) % 1000000000 = n := by omega
  simp only [ofNanos?, toNanos, h1, h2]
  exact dif_pos hs

/-- The number tells durations apart. -/
theorem toNanos_injective {a b : Duration} (h : a.toNanos = b.toNanos) : a = b :=
  Option.some.inj (by rw [← ofNanos?_toNanos a, ← ofNanos?_toNanos b, h])

end Duration

end ReadThrough
