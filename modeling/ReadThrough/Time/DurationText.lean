import ReadThrough.Time.Duration

/-!
# How a duration is written

A duration is written in the largest unit of which it holds at least one (`s`, `ms`, `µs`,
`ns`), with as many decimal places as it needs and no more: `3600s`, `1.5µs`, `1.000000001s`.
Nothing is rounded, so two durations are written alike only if they are equal.
-/

set_option autoImplicit false

namespace ReadThrough.Duration

/-- The digits of a fraction in so many places, without the zeros at the end. -/
def fractionDigits (places fraction : Nat) : List Char :=
  let digits := Nat.toDigits 10 fraction
  ((List.replicate (places - digits.length) '0' ++ digits).reverse.dropWhile (· == '0')).reverse

/-- So many whole units, and the fraction of one that the digits in `places` places give. -/
def withUnit (unit : String) (whole fraction places : Nat) : String :=
  let digits := fractionDigits places fraction
  toString whole ++ (if digits.isEmpty then "" else "." ++ String.ofList digits) ++ unit

/-- The written form, in the largest unit that is at least one. -/
def text (d : Duration) : String :=
  if 0 < d.seconds then withUnit "s" d.seconds d.nanos 9
  else if 1000000 ≤ d.nanos then withUnit "ms" (d.nanos / 1000000) (d.nanos % 1000000) 6
  else if 1000 ≤ d.nanos then withUnit "µs" (d.nanos / 1000) (d.nanos % 1000) 3
  else withUnit "ns" d.nanos 0 0

end ReadThrough.Duration
