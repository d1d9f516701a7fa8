import RotatedShards.Time.Duration

/-!
# Instants

An instant is a signed number of nanoseconds since the Unix epoch. Its seconds,
rounded down, fit a signed 64-bit word, so any two instants differ by a
`Duration`.

Main definitions:

* `Instant.since`: how long ago another instant was, or zero if it is yet to come.
* `Instant.ofMillis`: the instant some milliseconds after the Unix epoch.
-/

namespace RotatedShards

/-- A point in time: nanoseconds since the Unix epoch. -/
structure Instant where
  nanos : Int
  le_nanos : -(9223372036854775808 * 1000000000) ≤ nanos := by decide
  nanos_lt : nanos < 9223372036854775808 * 1000000000 := by decide
deriving DecidableEq

namespace Instant

/-- The Unix epoch. -/
def unixEpoch : Instant := ⟨0, by decide, by decide⟩

/-- The instant `secs` seconds after the Unix epoch, or before it where
    negative, and `nanos` nanoseconds later, if it can be represented. -/
def ofParts? (secs : Int) (nanos : Nat) : Option Instant :=
  let total := secs * 1000000000 + nanos
  if h : -(9223372036854775808 * 1000000000) ≤ total ∧
      total < 9223372036854775808 * 1000000000 then
    some ⟨total, h.1, h.2⟩
  else none

/-- The instant `millis` milliseconds after the Unix epoch. -/
def ofMillis (millis : UInt64) : Instant :=
  ⟨millis.toNat * 1000000, by omega, by
    have := millis.toNat_lt
    omega⟩

/-- The time from `start` to `now`, zero if `now` comes before `start`. -/
def since (now start : Instant) : Duration :=
  ⟨(now.nanos - start.nanos).toNat, by
    have := now.nanos_lt
    have := start.le_nanos
    omega⟩

@[simp] theorem nanos_since (now start : Instant) :
    (now.since start).nanos = (now.nanos - start.nanos).toNat := rfl

@[simp] theorem nanos_ofMillis (millis : UInt64) :
    (ofMillis millis).nanos = millis.toNat * 1000000 := rfl

end Instant

end RotatedShards
