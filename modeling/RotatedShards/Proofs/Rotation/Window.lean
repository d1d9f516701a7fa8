import Mathlib.Tactic.Zify
import RotatedShards.Proofs.Except
import RotatedShards.Proofs.Rotation.Clock
import RotatedShards.Rotation.Range

/-!
# The window of recent periods

A plan is a first part of the recency order. By the clock it consists of the
shards of the most recent periods, and it reaches back far enough for every row
that is still alive.

Results:
* `Resolver.plan_cases`: what a plan is, and when there is none.
* `Resolver.plan_eq_recent_periods`: which shards a plan by the clock consists of.
* `Resolver.live_row_in_plan`: no shard with a row that is still alive is left out.
-/

namespace RotatedShards

/-! ## Policies -/

namespace RangePolicy

theorem baseRange_pos {p : RangePolicy} {n : Nat} (h : p.baseRange = .ok n) : 0 < n := by
  have hpositive : ∀ m, (if m = 0 then Except.error (QueryError.configuration .rangeNotPositive)
      else Except.ok m) = .ok n → 0 < n := by
    intro m hm
    split_ifs at hm with h0
    cases hm
    omega
  unfold baseRange at h
  cases hr : p.range with
  | fixed m =>
    rw [hr] at h
    exact hpositive m h
  | optimal =>
    rw [hr] at h
    exact hpositive ShardRange.optimalCount h
  | fromConfig =>
    rw [hr] at h
    cases hq : p.configuredRange with
    | none =>
      simp [hq] at h
    | some m =>
      rw [hq] at h
      exact hpositive m h

theorem cause_of_validate {p : RangePolicy} {e : QueryError}
    (h : p.validate = .error e) : ∃ cause, e = .configuration cause := by
  have hpositive {n : Nat} (h : (if n = 0 then .error (.configuration .rangeNotPositive)
      else .ok n : Except QueryError Nat) = .error e) : ∃ cause, e = .configuration cause := by
    split_ifs at h
    cases h
    exact ⟨_, rfl⟩
  rcases bind_eq_error_iff.mp h with hbase | ⟨n, -, h⟩
  · unfold baseRange at hbase
    split at hbase
    · exact hpositive hbase
    · exact hpositive hbase
    · split at hbase
      · exact hpositive hbase
      · cases hbase
        exact ⟨_, rfl⟩
  · rcases bind_eq_error_iff.mp h with hexpiration | ⟨expiration, -, h⟩
    · unfold expiration at hexpiration
      split_ifs at hexpiration
      split at hexpiration
      · cases hexpiration
      · cases hexpiration
        exact ⟨_, rfl⟩
    · cases h

end RangePolicy

/-! ## Plans -/

namespace Resolver

/-- In a state the oldest shard is left out of the base range of a policy. -/
def shrinks (r : Resolver) (s : RotationState) (p : RangePolicy) : Bool :=
  p.shrink && p.expirationPeriod.any (r.expired s)

/-- The range of a policy with base range `n`, before it is cut off at the number
    of shards. -/
def width (r : Resolver) (s : RotationState) (p : RangePolicy) (n : Nat) : Nat :=
  if r.shrinks s p then n - 1 else n

theorem width_of_expiration (r : Resolver) (s : RotationState) (p : RangePolicy) (n : Nat)
    (expiration : Option Duration) :
    p.expiration = .ok expiration →
      (match expiration with
        | some period => if r.expired s period then n - 1 else n
        | none => n) = r.width s p n := by
  intro he
  unfold RangePolicy.expiration at he
  unfold width shrinks
  split_ifs at he with hs
  · cases hp : p.expirationPeriod with
    | none => simp [hp] at he
    | some period =>
      rw [hp] at he
      cases he
      simp [hs]
  · cases he
    simp [hs]

theorem range_eq {r : Resolver} {s : RotationState} {p : RangePolicy} {n : Nat}
    {expiration : Option Duration} (hb : p.baseRange = .ok n)
    (he : p.expiration = .ok expiration) :
    r.range s p = if r.width s p n = 0 then .error (.configuration .rangeNotPositive)
      else .ok (min (r.width s p n) s.numShards) := by
  unfold range
  rw [hb, he, ← width_of_expiration r s p n expiration he]
  rfl

/-- A plan is the first part of the recency order. There is none if the policy is
    not valid or the only shard in range is left out. -/
theorem plan_cases (r : Resolver) (s : RotationState) (p : RangePolicy) :
    (∃ e, p.validate = .error e ∧ r.plan s p = .error e) ∨
    ∃ n, p.validate = .ok () ∧ p.baseRange = .ok n ∧
      (r.width s p n = 0 ∧ r.plan s p = .error (.configuration .rangeNotPositive) ∨
        0 < r.width s p n ∧ r.plan s p = .ok (s.ordered.take (r.width s p n))) := by
  unfold plan
  cases hb : p.baseRange with
  | error e =>
    exact Or.inl ⟨e, by simp [RangePolicy.validate, hb, bind, Except.bind],
      by simp [range, hb, bind, Except.bind, Except.map]⟩
  | ok n =>
    cases he : p.expiration with
    | error e =>
      exact Or.inl ⟨e, by simp [RangePolicy.validate, hb, he, bind, Except.bind],
        by simp [range, hb, he, bind, Except.bind, Except.map]⟩
    | ok expiration =>
      refine Or.inr ⟨n, by simp [RangePolicy.validate, hb, he, bind, Except.bind, pure, Except.pure],
        rfl, ?_⟩
      rw [range_eq hb he]
      split_ifs with h0
      · exact Or.inl ⟨h0, rfl⟩
      · refine Or.inr ⟨Nat.pos_of_ne_zero h0, ?_⟩
        rw [Except.map, RotationState.numShards, ← List.take_take, List.take_length]

theorem plan_eq_ok {r : Resolver} {s : RotationState} {p : RangePolicy} {shards : List ShardId}
    (h : r.plan s p = .ok shards) :
    ∃ n, p.baseRange = .ok n ∧ 0 < r.width s p n ∧ shards = s.ordered.take (r.width s p n) := by
  rcases plan_cases r s p with ⟨e, -, he⟩ | ⟨n, -, hn, ⟨-, he⟩ | ⟨hpos, ht⟩⟩
  · rw [he] at h
    cases h
  · rw [he] at h
    cases h
  · rw [ht] at h
    cases h
    exact ⟨n, hn, hpos, rfl⟩

theorem plan_eq_take {r : Resolver} {s : RotationState} {p : RangePolicy} {n : Nat}
    {shards : List ShardId} (hn : p.baseRange = .ok n) (h : r.plan s p = .ok shards) :
    0 < r.width s p n ∧ shards = s.ordered.take (r.width s p n) := by
  obtain ⟨n', hn', hpos, hshards⟩ := plan_eq_ok h
  rw [hn] at hn'
  cases hn'
  exact ⟨hpos, hshards⟩

/-- With a valid policy there is no plan only if the only shard in range is left
    out. -/
theorem plan_eq_error {r : Resolver} {s : RotationState} {p : RangePolicy} {e : QueryError}
    (hv : p.validate = .ok ()) (h : r.plan s p = .error e) :
    e = .configuration .rangeNotPositive ∧ p.baseRange = .ok 1 ∧ r.shrinks s p = true := by
  rcases plan_cases r s p with ⟨e', he', -⟩ | ⟨n, -, hn, ⟨h0, he⟩ | ⟨-, ht⟩⟩
  · rw [hv] at he'
    cases he'
  · rw [he] at h
    cases h
    have hpos := RangePolicy.baseRange_pos hn
    unfold width at h0
    split_ifs at h0 with hs
    · refine ⟨rfl, ?_, hs⟩
      rw [hn, show n = 1 by omega]
    · omega
  · rw [ht] at h
    cases h

theorem plan_isPrefix {r : Resolver} {s : RotationState} {p : RangePolicy} {shards : List ShardId}
    (h : r.plan s p = .ok shards) : shards <+: s.ordered := by
  obtain ⟨n, -, -, rfl⟩ := plan_eq_ok h
  exact List.take_prefix _ _

theorem plan_nodup {r : Resolver} {s : RotationState} {p : RangePolicy} {shards : List ShardId}
    (h : r.plan s p = .ok shards) : shards.Nodup :=
  (plan_isPrefix h).sublist.nodup s.ordered_nodup

/-! ## Plans by the clock -/

section Clock

variable {c : RotationConfig} {r : Resolver} {p : RangePolicy} {w t : Instant}
  {sw st : RotationState} {shards : List ShardId}

/-- The shard of an earlier instant is in a plan if fewer periods lie between than
    the plan has shards, going around. -/
theorem current_mem_plan_iff (hc : c.fault? = none) (hwt : w.nanos ≤ t.nanos)
    (hw : c.StateAt w sw) (ht : c.StateAt t st) (hplan : r.plan st p = .ok shards) :
    sw.current ∈ shards ↔
      (c.periodAt t - c.periodAt w) % c.numShards.toNat < shards.length := by
  obtain ⟨hpos, hmax, -, -⟩ := RotationConfig.fault?_eq_none_iff.mp hc
  obtain ⟨n, -, -, rfl⟩ := plan_eq_ok hplan
  set m := r.width st p n
  have hcut : (RotationState.countdown c.numShards.toNat
      (c.periodAt t % c.numShards.toNat)).take m =
      (RotationState.countdown c.numShards.toNat
        (c.periodAt t % c.numShards.toNat)).take (min m c.numShards.toNat) := by
    rw [← List.take_take]
    congr 1
    rw [List.take_of_length_le (by simp)]
  rw [hw.current_eq hc, ht.ordered, List.length_take, RotationState.length_countdown, hcut]
  exact RotationState.mem_take_countdown_iff hpos hmax (c.periodAt_mono hwt)
    (Nat.min_le_right _ _)

/-- An index of a plan that does not reach back beyond the epoch is an instant at
    which the clock gives a state. -/
theorem getElem?_plan (hc : c.fault? = none) (ht : c.StateAt t st)
    (hplan : r.plan st p = .ok shards) {i : Nat} (hi : i < shards.length)
    (hback : (Instant.ofMillis c.epochMillis).nanos ≤ t.nanos - i * c.rotationPeriod.nanos) :
    ∃ u su, u.nanos = t.nanos - i * c.rotationPeriod.nanos ∧ c.stateAt u = .ok su ∧
      shards[i]? = some su.current := by
  obtain ⟨hpos, hmax, hperiod, -⟩ := RotationConfig.fault?_eq_none_iff.mp hc
  have hepoch := (Instant.ofMillis c.epochMillis).le_nanos
  have hlt := t.nanos_lt
  have hmul : 0 ≤ (i : Int) * c.rotationPeriod.nanos :=
    Int.mul_nonneg (Int.natCast_nonneg i) (Int.natCast_nonneg _)
  let u : Instant := ⟨t.nanos - i * c.rotationPeriod.nanos, by omega, by omega⟩
  have hun : u.nanos = t.nanos - i * c.rotationPeriod.nanos := rfl
  have hpassed : c.passed t = c.passed u + i * c.rotationPeriod.nanos := by
    have hu := c.passed_eq u
    have ht := c.passed_eq t
    rw [Instant.nanos_ofMillis] at hback
    zify
    omega
  have hperiods : c.periodAt t = c.periodAt u + i := by
    rw [RotationConfig.periodAt, hpassed, Nat.add_mul_div_right _ _ hperiod]
    rfl
  have helapsed : c.passed u % c.rotationPeriod.nanos = st.elapsed.nanos := by
    rw [ht.elapsed, hpassed, Nat.add_mul_mod_self_right]
  rcases c.stateAt_cases hc u with ⟨-, su, hsu, hstate⟩ | ⟨hlarge, -⟩
  · refine ⟨u, su, hun, hsu, ?_⟩
    obtain ⟨n, -, -, rfl⟩ := plan_eq_ok hplan
    rw [List.length_take, ht.ordered, RotationState.length_countdown] at hi
    rw [List.getElem?_take_of_lt (by omega), ht.ordered,
      RotationState.getElem?_countdown _ (by omega), hstate.current_eq hc,
      RotationState.add_sub_mod (by omega) (by omega), hperiods, Nat.add_sub_cancel]
  · have := ht.elapsed_lt
    omega

/-- By the clock of a valid configuration a plan consists of the shards of the most
    recent periods: the shard of an earlier instant is in it exactly if fewer periods
    lie between than it has shards, going around, and its index `i` is the shard of
    `i` periods ago, as long as that is not before the epoch. -/
theorem plan_eq_recent_periods {source : RotationSource}
    (hsource : RotationSource.clock? c = .ok source) (r : Resolver) (p : RangePolicy)
    (hwt : w.nanos ≤ t.nanos) (hw : source.stateAt w = .ok sw) (ht : source.stateAt t = .ok st)
    (hplan : r.plan st p = .ok shards) :
    (sw.current ∈ shards ↔
      (c.periodAt t - c.periodAt w) % c.numShards.toNat < shards.length) ∧
    (∀ i < shards.length,
      (Instant.ofMillis c.epochMillis).nanos ≤ t.nanos - i * c.rotationPeriod.nanos →
      ∃ u su, u.nanos = t.nanos - i * c.rotationPeriod.nanos ∧ source.stateAt u = .ok su ∧
        shards[i]? = some su.current) ∧
    shards.Nodup := by
  obtain ⟨hc, rfl⟩ := RotationSource.clock?_eq_ok_iff.mp hsource
  have hstw := RotationConfig.StateAt.of_stateAt hc hw
  have hstt := RotationConfig.StateAt.of_stateAt hc ht
  exact ⟨current_mem_plan_iff hc hwt hstw hstt hplan,
    fun i hi hback => getElem?_plan hc hstt hplan hi hback, plan_nodup hplan⟩

/-- A family of three shards that take turns for an hour each, with rows that live for
    three quarters of an hour. -/
def hourly : RotationConfig :=
  { RotationConfig.default with
    numShards := 3, rotationPeriod := ⟨3600000000000, by decide⟩
    expirationPeriod := some ⟨2700000000000, by decide⟩ }

/-- Four hours on, the shard of the first hour is in the plan again, as the one before
    the current shard. -/
theorem plan_eq_recent_periods_hourly :
    ∃ source sw st shards, RotationSource.clock? hourly = .ok source ∧
      source.stateAt ⟨100000000000, by decide, by decide⟩ = .ok sw ∧
      source.stateAt ⟨14500000000000, by decide, by decide⟩ = .ok st ∧
      plan {} st (.ofConfig .optimal false hourly) = .ok shards ∧
      shards = [⟨1⟩, ⟨0⟩] ∧ sw.current ∈ shards :=
  ⟨_, _, _, _, rfl, rfl, rfl, rfl, by decide,
    (plan_eq_recent_periods (c := hourly) (w := ⟨100000000000, by decide, by decide⟩)
      (t := ⟨14500000000000, by decide, by decide⟩) rfl {} (.ofConfig .optimal false hourly)
      (by decide) rfl rfl rfl).1.mpr (by decide)⟩

/-! ## Rows that are still alive -/

/-- Between two instants as far apart as the expired current shard allows no period
    begins. -/
theorem periodAt_eq_of_expired {E : Duration} (hc : c.fault? = none) (ht : c.StateAt t st)
    (hexpired : r.expired st E = true) (hwt : w.nanos ≤ t.nanos)
    (hage : t.nanos - w.nanos ≤ (E.nanos + r.margin.nanos : Nat)) :
    c.periodAt w = c.periodAt t := by
  obtain ⟨-, -, hperiod, -⟩ := RotationConfig.fault?_eq_none_iff.mp hc
  -- a sum that saturates is longer than any time passed in a period
  have hlt := ht.elapsed_lt
  have hle : E.nanos + r.margin.nanos ≤ c.passed t % c.rotationPeriod.nanos := by
    have := of_decide_eq_true hexpired
    rw [Duration.le_iff, Duration.nanos_saturatingAdd] at this
    rw [← ht.elapsed]
    have hlongest : Duration.longest.nanos = 18446744073709551616 * 1000000000 - 1 := rfl
    omega
  have hpassed := c.passed_le_add hage
  have hdiv := Nat.div_add_mod (c.passed t) c.rotationPeriod.nanos
  refine Nat.le_antisymm (c.periodAt_mono hwt) ?_
  rw [RotationConfig.periodAt, RotationConfig.periodAt, Nat.le_div_iff_mul_le hperiod,
    Nat.mul_comm]
  omega

/-- Between two instants no further apart than `k` periods at most `k` periods begin. -/
theorem periodAt_le_add {k : Nat} (hc : c.fault? = none)
    (hage : t.nanos - w.nanos ≤ (k * c.rotationPeriod.nanos : Nat)) :
    c.periodAt t ≤ c.periodAt w + k := by
  obtain ⟨-, -, hperiod, -⟩ := RotationConfig.fault?_eq_none_iff.mp hc
  rw [RotationConfig.periodAt, RotationConfig.periodAt, ← Nat.add_mul_div_right _ _ hperiod]
  exact Nat.div_le_div_right (c.passed_le_add hage)

/-- The shard of an instant that lies fewer periods back than the range is wide is in
    a plan. -/
theorem current_mem_plan_of_lt {n k : Nat} (hc : c.fault? = none) (hwt : w.nanos ≤ t.nanos)
    (hw : c.StateAt w sw) (ht : c.StateAt t st) (hn : p.baseRange = .ok n)
    (hplan : r.plan st p = .ok shards) (hk : c.periodAt t ≤ c.periodAt w + k)
    (hwidth : k < r.width st p n) : sw.current ∈ shards := by
  rw [current_mem_plan_iff hc hwt hw ht hplan]
  obtain ⟨-, rfl⟩ := plan_eq_take hn hplan
  rw [List.length_take, ht.ordered, RotationState.length_countdown]
  have hmod := Nat.mod_lt (c.periodAt t - c.periodAt w)
    (RotationConfig.fault?_eq_none_iff.mp hc).1
  have hle := Nat.mod_le (c.periodAt t - c.periodAt w) c.numShards.toNat
  omega

/-- Where the oldest shard is left out, the shard of every instant no further back
    than the expiration period and the margin is the current one. -/
theorem current_mem_plan_of_shrinks {E : Duration} (hc : c.fault? = none)
    (hE : p.expirationPeriod = some E) (hs : r.shrinks st p = true) (hwt : w.nanos ≤ t.nanos)
    (hage : t.nanos - w.nanos ≤ (E.nanos + r.margin.nanos : Nat)) (hw : c.StateAt w sw)
    (ht : c.StateAt t st) (hplan : r.plan st p = .ok shards) : sw.current ∈ shards := by
  have hexpired : r.expired st E = true := by
    rw [shrinks, hE, Option.any_some, Bool.and_eq_true] at hs
    exact hs.2
  have heq := periodAt_eq_of_expired hc ht hexpired hwt hage
  obtain ⟨n, hn, hpos, -⟩ := plan_eq_ok hplan
  exact current_mem_plan_of_lt (k := 0) hc hwt hw ht hn hplan (by omega) hpos

theorem not_mem_plan_of_shrinks {n : Nat} (hn : p.baseRange = .ok n)
    (hs : r.shrinks st p = true) (hplan : r.plan st p = .ok shards) :
    shards = st.ordered.take (n - 1) ∧
      ∀ dropped, st.ordered[n - 1]? = some dropped → dropped ∉ shards := by
  obtain ⟨-, hshards⟩ := plan_eq_take hn hplan
  rw [width, if_pos hs] at hshards
  refine ⟨hshards, fun dropped hdropped hmem => ?_⟩
  rw [hshards, List.mem_take_iff_getElem] at hmem
  obtain ⟨i, hi, hget⟩ := hmem
  obtain ⟨hlt, hget'⟩ := List.getElem?_eq_some_iff.mp hdropped
  have := (List.Nodup.getElem_inj_iff st.ordered_nodup).mp (hget.trans hget'.symm)
  omega

/-- No row that is still alive is missed. As long as the base range of a policy
    covers the expiration period and the margin, a plan has the shard that was
    current at any earlier instant no further back than both together. And where the
    oldest shard is left out, it holds no row whose age is within the expiration
    period, though the clock of its writer may have lagged by the margin. -/
theorem live_row_in_plan {source : RotationSource}
    (hsource : RotationSource.clock? c = .ok source) {E : Duration}
    (hE : c.expirationPeriod = some E) (range : ShardRange) (shrink : Bool) {n : Nat}
    (hn : (RangePolicy.ofConfig range shrink c).baseRange = .ok n)
    (ht : source.stateAt t = .ok st)
    (hplan : plan ⟨c.clockSkewMargin⟩ st (.ofConfig range shrink c) = .ok shards) :
    (E.nanos + c.clockSkewMargin.nanos ≤ (n - 1) * c.rotationPeriod.nanos →
      ∀ (w : Instant) (sw : RotationState), w.nanos ≤ t.nanos →
        t.nanos - w.nanos ≤ (E.nanos + c.clockSkewMargin.nanos : Nat) →
        source.stateAt w = .ok sw → sw.current ∈ shards) ∧
    (shrinks ⟨c.clockSkewMargin⟩ st (.ofConfig range shrink c) = true →
      shards = st.ordered.take (n - 1) ∧
      ∀ dropped, st.ordered[n - 1]? = some dropped →
        ∀ (written reading : Instant) (sw : RotationState), written.nanos ≤ t.nanos →
          t.nanos - written.nanos ≤ E.nanos → reading.nanos ≤ written.nanos →
          written.nanos - reading.nanos ≤ c.clockSkewMargin.nanos →
          source.stateAt reading = .ok sw → sw.current ≠ dropped) := by
  obtain ⟨hc, rfl⟩ := RotationSource.clock?_eq_ok_iff.mp hsource
  have hstt := RotationConfig.StateAt.of_stateAt hc ht
  refine ⟨fun hcover w sw hwt hage hw => ?_, fun hs => ?_⟩
  · have hstw := RotationConfig.StateAt.of_stateAt hc hw
    by_cases hs : shrinks ⟨c.clockSkewMargin⟩ st (.ofConfig range shrink c) = true
    · exact current_mem_plan_of_shrinks hc hE hs hwt hage hstw hstt hplan
    · have hk := periodAt_le_add (w := w) (t := t) (k := n - 1) hc (by omega)
      have hpos := RangePolicy.baseRange_pos hn
      refine current_mem_plan_of_lt hc hwt hstw hstt hn hplan hk ?_
      rw [width, if_neg hs]
      omega
  · obtain ⟨hshards, hdrop⟩ := not_mem_plan_of_shrinks hn hs hplan
    refine ⟨hshards, fun dropped hdropped written reading sw hwt hage hrw hlag hsw heq => ?_⟩
    refine hdrop dropped hdropped (heq ▸ ?_)
    exact current_mem_plan_of_shrinks hc hE hs (by omega) (by push_cast; omega)
      (.of_stateAt hc hsw) hstt hplan

/-- A row written just the expiration period and the margin ago, before the last
    rotation, is in the plan. Later in the same hour its shard is left out. -/
theorem live_row_in_plan_hourly :
    ∃ source sw st shards late lateShards, RotationSource.clock? hourly = .ok source ∧
      source.stateAt ⟨4599000000000, by decide, by decide⟩ = .ok sw ∧
      source.stateAt ⟨7300000000000, by decide, by decide⟩ = .ok st ∧
      plan ⟨hourly.clockSkewMargin⟩ st (.ofConfig .optimal true hourly) = .ok shards ∧
      sw.current ∈ shards ∧
      source.stateAt ⟨10000000000000, by decide, by decide⟩ = .ok late ∧
      plan ⟨hourly.clockSkewMargin⟩ late (.ofConfig .optimal true hourly) = .ok lateShards ∧
      lateShards = late.ordered.take 1 ∧ sw.current ∉ lateShards :=
  ⟨_, _, _, _, _, _, rfl, rfl, rfl, rfl,
    (live_row_in_plan (c := hourly) (E := ⟨2700000000000, by decide⟩)
      (t := ⟨7300000000000, by decide, by decide⟩) rfl rfl .optimal true rfl rfl rfl).1
      (by decide) ⟨4599000000000, by decide, by decide⟩ _ (by decide) (by decide) rfl,
    rfl, rfl,
    ((live_row_in_plan (c := hourly) (t := ⟨10000000000000, by decide, by decide⟩) rfl rfl
      .optimal true rfl rfl rfl).2 rfl).1,
    by decide⟩

end Clock

end Resolver

end RotatedShards
