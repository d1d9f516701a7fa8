/-!
# Durations

A duration is a whole number of nanoseconds. Its seconds fit a 64-bit word, so
there is a longest one, at which sums saturate.

Main definitions:

* `Duration.ofParts?`: a duration from seconds and the nanoseconds past them.
* `Duration.saturatingAdd`: addition that stops at the longest duration.
-/

namespace RotatedShards

/-- A span of time in whole nanoseconds, less than `2^64` seconds long. -/
structure Duration where
  nanos : Nat
  nanos_lt : nanos < 18446744073709551616 * 1000000000 := by decide
deriving DecidableEq

namespace Duration

/-! ## Parts -/

/-- The empty duration. -/
def zero : Duration := ⟨0, by decide⟩

/-- The longest duration: `2^64` seconds less one nanosecond. -/
def longest : Duration := ⟨18446744073709551616 * 1000000000 - 1, by decide⟩

/-- The duration of `secs` seconds and `nanos` nanoseconds, if its seconds fit
    a 64-bit word. -/
def ofParts? (secs nanos : Nat) : Option Duration :=
  if h : secs * 1000000000 + nanos < 18446744073709551616 * 1000000000 then
    some ⟨secs * 1000000000 + nanos, h⟩
  else none

/-- The whole seconds of a duration. -/
def seconds (d : Duration) : Nat := d.nanos / 1000000000

/-- The nanoseconds past the whole seconds. -/
def subsecondNanos (d : Duration) : Nat := d.nanos % 1000000000

/-! ## Order and sum -/

instance : LE Duration := ⟨fun a b => a.nanos ≤ b.nanos⟩

instance (a b : Duration) : Decidable (a ≤ b) := Nat.decLe a.nanos b.nanos

/-- The sum of two durations, or the longest one if the sum does not fit. -/
def saturatingAdd (a b : Duration) : Duration :=
  ⟨min (a.nanos + b.nanos) longest.nanos, by
    have := longest.nanos_lt
    omega⟩

theorem le_iff (a b : Duration) : a ≤ b ↔ a.nanos ≤ b.nanos := Iff.rfl

@[simp] theorem nanos_saturatingAdd (a b : Duration) :
    (a.saturatingAdd b).nanos = min (a.nanos + b.nanos) longest.nanos := rfl

end Duration

end RotatedShards
