import Mathlib.Tactic.SplitIfs
import RotatedShards.Value

/-!
# Timestamps of instants

An instant becomes a number of milliseconds, which are counted from the Unix epoch in either
direction: a fraction of a millisecond is dropped toward the epoch, not toward the past. What
does not fit becomes the largest number or its negative, and never the smallest number, which
is not the negative of any other. None of this turns the order of two instants around.

Results:
* `Value.toInt_millis`: the milliseconds of a duration.
* `Value.exists_ofInstant`: the timestamp of every instant, as the milliseconds between two
  bounds.
* `Value.ofInstant_mono`: earlier instants have no later timestamps.
-/

namespace RotatedShards.Value

/-! ## Milliseconds of durations -/

/-- The milliseconds of a duration stop at the largest number. -/
theorem toInt_millis (d : Duration) :
    (millis d).toInt = min ((d.nanos / 1000000 : Nat) : Int) 9223372036854775807 := by
  unfold millis
  simp only
  split_ifs with h
  · rw [Int64.toInt_ofNat_of_lt (by omega)]
    omega
  · have hmax : Int64.maxValue.toInt = 9223372036854775807 := rfl
    rw [hmax]
    omega

/-- No overflow: the negative of these milliseconds is a number, too. -/
theorem toInt_neg_millis (d : Duration) : (-millis d).toInt = -(millis d).toInt := by
  have h := toInt_millis d
  rw [Int64.toInt_neg]
  apply Int.bmod_eq_of_le <;> omega

/-! ## Timestamps -/

/-- The timestamp of an instant is the number of milliseconds since the Unix epoch, rounded
    toward zero, if that lies between the largest number and its negative, and the nearer of
    the two otherwise. -/
structure Timestamps (t : Instant) (ms : Int64) : Prop where
  exact : -9223372036854775807 ≤ t.nanos.tdiv 1000000 →
    t.nanos.tdiv 1000000 ≤ 9223372036854775807 → ms.toInt = t.nanos.tdiv 1000000
  latest : 9223372036854775807 < t.nanos.tdiv 1000000 → ms.toInt = 9223372036854775807
  earliest : t.nanos.tdiv 1000000 < -9223372036854775807 → ms.toInt = -9223372036854775807
  ne_minValue : ms ≠ .minValue

theorem Timestamps.of_toInt {t : Instant} {ms : Int64} (h : ms.toInt =
    max (-9223372036854775807) (min (t.nanos.tdiv 1000000) 9223372036854775807)) :
    Timestamps t ms := by
  have hmin : Int64.minValue.toInt = -9223372036854775808 := rfl
  refine ⟨by omega, by omega, by omega, ?_⟩
  rintro rfl
  omega

/-- Every instant has a timestamp, whose number lies between the two bounds. -/
theorem exists_ofInstant (t : Instant) :
    ∃ ms : Int64, ofInstant t = .timestamp ms ∧
      ms.toInt = max (-9223372036854775807) (min (t.nanos.tdiv 1000000) 9223372036854775807) := by
  refine ⟨_, rfl, ?_⟩
  split_ifs with h
  · -- from the epoch on, rounding down is rounding toward the epoch
    have hsince : ((t.since .unixEpoch).nanos : Int) = t.nanos := by
      simp only [Instant.nanos_since, Instant.unixEpoch]
      omega
    rw [toInt_millis, Int.natCast_ediv, hsince, Int.tdiv_eq_ediv_of_nonneg h]
    omega
  · -- before it the time that is left is rounded down, and only then made negative
    have hsince : ((Instant.unixEpoch.since t).nanos : Int) = -t.nanos := by
      simp only [Instant.nanos_since, Instant.unixEpoch]
      omega
    have htdiv : t.nanos.tdiv 1000000 = -(-t.nanos / 1000000) := by
      rw [← Int.tdiv_eq_ediv_of_nonneg (by omega), Int.neg_tdiv, Int.neg_neg]
    rw [toInt_neg_millis, toInt_millis, Int.natCast_ediv, hsince, htdiv]
    omega

/-- Earlier instants have no later timestamps, on either side of the Unix epoch and across it,
    and the timestamp of every instant is exact as far as it fits. -/
theorem ofInstant_mono {t u : Instant} (h : t.nanos ≤ u.nanos) :
    ∃ ms ms' : Int64, ofInstant t = .timestamp ms ∧ ofInstant u = .timestamp ms' ∧
      ms.toInt ≤ ms'.toInt ∧ Timestamps t ms ∧ Timestamps u ms' := by
  obtain ⟨ms, htimestamp, hms⟩ := exists_ofInstant t
  obtain ⟨ms', htimestamp', hms'⟩ := exists_ofInstant u
  have hdiv : t.nanos.tdiv 1000000 ≤ u.nanos.tdiv 1000000 := Int.tdiv_le_tdiv (by omega) h
  refine ⟨ms, ms', htimestamp, htimestamp', ?_, .of_toInt hms, .of_toInt hms'⟩
  rw [hms, hms']
  omega

/-- The first instant that can be represented, which lies too far back for a timestamp. -/
def firstInstant : Instant := ⟨-(9223372036854775808 * 1000000000), by decide, by decide⟩

/-- The last nanosecond of the second millisecond before the Unix epoch. -/
def shortlyBefore : Instant := ⟨-1000001, by decide, by decide⟩

/-- Less than two milliseconds before the Unix epoch the timestamp is `-1`; of the first instant
    it is the negative of the largest number. -/
theorem ofInstant_mono_firstInstant :
    firstInstant.nanos ≤ shortlyBefore.nanos ∧
      ofInstant firstInstant = .timestamp (-9223372036854775807) ∧
      ofInstant shortlyBefore = .timestamp (-1) := by
  have hle : firstInstant.nanos ≤ shortlyBefore.nanos := by decide
  obtain ⟨ms, ms', hms, hms', -, hfirst, hshortly⟩ := ofInstant_mono hle
  have hearliest : ms = -9223372036854775807 :=
    Int64.toInt_inj.mp (hfirst.earliest (by decide))
  have hexact : ms' = -1 := Int64.toInt_inj.mp (hshortly.exact (by decide) (by decide))
  subst hearliest hexact
  exact ⟨hle, hms, hms'⟩

end RotatedShards.Value
