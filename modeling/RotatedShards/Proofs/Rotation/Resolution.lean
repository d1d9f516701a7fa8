import RotatedShards.Proofs.Rotation.Window

/-!
# When a range resolves

Which policies have a plan at a state, and how long it is. Both ways to build a state
give one with the number of shards, the current shard and the elapsed time asked for,
so a plan can be told from these and from the policy alone.

Results:
* `RotationState.Given`: the states of both constructions, and what they have.
* `Resolver.shrinks_iff`: when the oldest shard is left out.
* `Resolver.plan_resolves`: when there is no plan and why, and which plan there is
  otherwise.
-/

namespace RotatedShards

/-! ## The states of both constructions -/

namespace RotationState

variable {count : Nat} {current : ShardId} {ordered : List ShardId} {elapsed period : Duration}
  {s : RotationState}

/-- A state built for a family of `count` shards, from a recency order or from the
    current shard alone. -/
inductive Given (count : Nat) (current : ShardId) (elapsed period : Duration)
    (s : RotationState) : Prop
  | ofOrder {older : List ShardId}
      (built : RotationState.ofOrder count (current :: older) elapsed period = .ok s)
  | ofCurrent (built : RotationState.ofCurrent count current elapsed period = .ok s)

theorem ofOrder_eq_ok (h : ofOrder count ordered elapsed period = .ok s) :
    s.ordered = ordered ∧ ordered.length = count ∧ s.elapsed = elapsed ∧ s.period = period := by
  unfold ofOrder at h
  split_ifs at h with hzero hlen
  split at h
  · cases h
  · cases h
    exact ⟨rfl, Decidable.not_not.mp hlen, rfl, rfl⟩

theorem ofCurrent_eq_ok (h : ofCurrent count current elapsed period = .ok s) :
    ∃ index < count, current = .ofIndex index ∧
      ofOrder count (countdown count index) elapsed period = .ok s := by
  unfold ofCurrent at h
  split_ifs at h
  split at h
  · rename_i index hposition
    split_ifs at h with hlt
    exact ⟨index, hlt, (ShardId.ofIndex_of_position? hposition).symm, h⟩
  · cases h

theorem Given.views (h : Given count current elapsed period s) :
    s.ordered.length = count ∧ s.ordered.head? = some current ∧ s.elapsed = elapsed ∧
      s.period = period := by
  cases h with
  | ofOrder built =>
    obtain ⟨hordered, hlen, helapsed, hperiod⟩ := ofOrder_eq_ok built
    exact ⟨hordered ▸ hlen, by rw [hordered]; rfl, helapsed, hperiod⟩
  | ofCurrent built =>
    obtain ⟨index, hlt, rfl, hbuilt⟩ := ofCurrent_eq_ok built
    obtain ⟨hordered, hlen, helapsed, hperiod⟩ := ofOrder_eq_ok hbuilt
    refine ⟨hordered ▸ hlen, ?_, helapsed, hperiod⟩
    rw [hordered, List.head?_eq_getElem?, getElem?_countdown _ (by omega), Nat.sub_zero,
      Nat.add_mod_right, Nat.mod_eq_of_lt hlt]

end RotationState

/-! ## Leaving out the oldest shard -/

namespace Resolver

/-- The policy leaves out the oldest shard once the current one has received writes
    for `elapsed`: no shorter than the expiration period and the margin, a sum that
    stops at the longest duration. -/
def Fires (r : Resolver) (elapsed : Duration) (p : RangePolicy) : Prop :=
  p.shrink = true ∧ ∃ expiration, p.expirationPeriod = some expiration ∧
    min (expiration.nanos + r.margin.nanos) Duration.longest.nanos ≤ elapsed.nanos

theorem shrinks_iff {r : Resolver} {s : RotationState} {p : RangePolicy} :
    r.shrinks s p = true ↔ r.Fires s.elapsed p := by
  have hexpired (period : Duration) : r.expired s period = true ↔
      min (period.nanos + r.margin.nanos) Duration.longest.nanos ≤ s.elapsed.nanos := by
    rw [expired, decide_eq_true_iff, Duration.le_iff, Duration.nanos_saturatingAdd]
  unfold shrinks Fires
  cases p.expirationPeriod <;> simp [hexpired]

instance (r : Resolver) (elapsed : Duration) (p : RangePolicy) :
    Decidable (r.Fires elapsed p) :=
  decidable_of_iff (p.shrink = true ∧ p.expirationPeriod.any (fun expiration =>
    min (expiration.nanos + r.margin.nanos) Duration.longest.nanos ≤ elapsed.nanos) = true) (by
      unfold Fires
      cases p.expirationPeriod <;> simp)

section

variable {r : Resolver} {s : RotationState} {p : RangePolicy} {base : Nat}

theorem width_eq_sub (hbase : p.baseRange = .ok base) :
    (r.width s p base : Int) = base - if r.Fires s.elapsed p then 1 else 0 := by
  have hpos := RangePolicy.baseRange_pos hbase
  by_cases hfires : r.Fires s.elapsed p
  · rw [width, if_pos (shrinks_iff.mpr hfires), if_pos hfires]
    omega
  · rw [width, if_neg (fun h => hfires (shrinks_iff.mp h)), if_neg hfires]
    omega

theorem width_eq_zero_iff (hbase : p.baseRange = .ok base) :
    r.width s p base = 0 ↔ base = 1 ∧ r.Fires s.elapsed p := by
  have hpos := RangePolicy.baseRange_pos hbase
  have hwidth := width_eq_sub (r := r) (s := s) hbase
  split_ifs at hwidth with hfires
  · simp only [hfires, and_true]
    omega
  · simp only [hfires, and_false, iff_false]
    omega

/-- A valid policy has no plan exactly if nothing is left of its range. -/
theorem plan_eq_error_iff (hv : p.validate = .ok ()) (hbase : p.baseRange = .ok base)
    {e : QueryError} :
    r.plan s p = .error e ↔
      e = .configuration .rangeNotPositive ∧ base = 1 ∧ r.Fires s.elapsed p := by
  rw [← width_eq_zero_iff (r := r) hbase]
  rcases plan_cases r s p with ⟨e', he', -⟩ | ⟨base', -, hbase', hplan⟩
  · rw [hv] at he'
    cases he'
  · rw [hbase] at hbase'
    cases hbase'
    rcases hplan with ⟨hzero, he⟩ | ⟨hpos, hok⟩
    · rw [he, Except.error.injEq]
      exact ⟨fun h => ⟨h.symm, hzero⟩, fun h => h.1.symm⟩
    · simp only [hok, reduceCtorEq, false_iff, not_and]
      omega

theorem range_and_plan_eq_ok (hv : p.validate = .ok ()) (hbase : p.baseRange = .ok base)
    (hpos : 0 < r.width s p base) :
    r.range s p = .ok (min (r.width s p base) s.numShards) ∧
      r.plan s p = .ok (s.ordered.take (min (r.width s p base) s.numShards)) := by
  obtain ⟨_, -, hv⟩ := bind_eq_ok_iff.mp hv
  obtain ⟨expiration, hexpiration, -⟩ := bind_eq_ok_iff.mp hv
  have hrange : r.range s p = .ok (min (r.width s p base) s.numShards) := by
    rw [range_eq hbase hexpiration, if_neg (by omega)]
  exact ⟨hrange, by rw [plan, hrange]; rfl⟩

end

/-- When a range resolves, for every state of either construction, every policy and
    every margin. A policy that is not valid fails with what is wrong about it. A valid
    one fails exactly if the only shard in range is left out. Otherwise the plan is a
    first part of the recency order, within its bounds: it starts with the current
    shard, repeats none, and has as many shards as the base range, less one if the
    oldest is left out, and no more than there are. -/
theorem plan_resolves {count : Nat} {current : ShardId} {elapsed period : Duration}
    {s : RotationState} (hs : s.Given count current elapsed period) (r : Resolver)
    (p : RangePolicy) :
    (∀ e, p.validate = .error e → r.plan s p = .error e) ∧
    (p.validate = .ok () → ∃ base, p.baseRange = .ok base ∧
      (∀ e, r.plan s p = .error e ↔
        e = .configuration .rangeNotPositive ∧ base = 1 ∧ r.Fires elapsed p) ∧
      (¬ (base = 1 ∧ r.Fires elapsed p) →
        ∃ n shards, r.range s p = .ok n ∧ n ≤ s.ordered.length ∧
          r.plan s p = .ok shards ∧ shards <+: s.ordered ∧ shards ≠ [] ∧
          shards.head? = some current ∧ shards.Nodup ∧ shards.length = n ∧
          (n : Int) = min ((base : Int) - if r.Fires elapsed p then 1 else 0) count)) := by
  obtain ⟨hcount, hcurrent, rfl, -⟩ := hs.views
  refine ⟨fun e hv => ?_, fun hv => ?_⟩
  · rcases plan_cases r s p with ⟨e', hv', he⟩ | ⟨base, hv', -, -⟩
    · rw [hv'] at hv
      cases hv
      exact he
    · rw [hv'] at hv
      cases hv
  · obtain ⟨base, hbase, -⟩ := bind_eq_ok_iff.mp hv
    refine ⟨base, hbase, fun e => plan_eq_error_iff hv hbase, fun hleft => ?_⟩
    have hwidth := width_eq_sub (r := r) (s := s) hbase
    have hpos : 0 < r.width s p base :=
      Nat.pos_of_ne_zero fun h => hleft ((width_eq_zero_iff hbase).mp h)
    obtain ⟨hrange, hplan⟩ := range_and_plan_eq_ok hv hbase hpos
    have hshards := s.numShards_pos
    have hhead : (s.ordered.take (min (r.width s p base) s.numShards)).head? = some current := by
      rw [List.head?_take, if_neg (by omega), hcurrent]
    refine ⟨_, _, hrange, Nat.min_le_right _ _, hplan, List.take_prefix _ _, ?_, hhead,
      plan_nodup hplan, ?_, ?_⟩
    · intro hnil
      rw [hnil] at hhead
      cases hhead
    · rw [List.length_take, RotationState.numShards]
      omega
    · rw [RotationState.numShards, hcount, ← hwidth]
      omega

/-- In a family of three shards whose second has expired, a range of nine loses one
    shard and is still cut off at three. Of a range of one nothing is left. -/
theorem plan_resolves_expired :
    ∃ s, RotationState.ofCurrent 3 ⟨1⟩ ⟨3700000000000, by decide⟩ ⟨7200000000000, by decide⟩ =
        .ok s ∧
      (∃ shards, plan {} s (.withExpiration { range := .fixed 9 } ⟨60, by decide⟩) = .ok shards ∧
        shards.head? = some ⟨1⟩ ∧ shards.length = 3) ∧
      plan {} s (.withExpiration { range := .fixed 1 } ⟨60, by decide⟩) =
        .error (.configuration .rangeNotPositive) := by
  obtain ⟨s, hs, -⟩ := RotationState.exists_ofCurrent_ofIndex (show 3 ≤ 2147483647 by decide)
    (show 1 < 3 by decide) ⟨3700000000000, by decide⟩ ⟨7200000000000, by decide⟩
  have hgiven := RotationState.Given.ofCurrent hs
  obtain ⟨base, hbase, -, hwide⟩ := (plan_resolves hgiven {}
    (.withExpiration { range := .fixed 9 } ⟨60, by decide⟩)).2 rfl
  cases hbase
  obtain ⟨n, shards, -, -, hshards, -, -, hhead, -, hlen, hn⟩ := hwide (by decide)
  rw [if_pos (by decide)] at hn
  obtain ⟨base, hbase, hnarrow, -⟩ := (plan_resolves hgiven {}
    (.withExpiration { range := .fixed 1 } ⟨60, by decide⟩)).2 rfl
  cases hbase
  exact ⟨s, hs, ⟨shards, hshards, hhead, by omega⟩, (hnarrow _).mpr ⟨rfl, rfl, by decide⟩⟩

end Resolver

end RotatedShards
