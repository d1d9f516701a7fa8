import Mathlib.Data.List.Nodup
import Mathlib.Data.Nat.ModEq
import Mathlib.Tactic.SplitIfs
import RotatedShards.Proofs.ShardId
import RotatedShards.Rotation.Source

/-!
# Rotation by the clock

Which state the clock gives at an instant, in terms of the time that has passed
since the epoch and of the number of whole periods in it, and where a shard
stands in the recency order that counts down from the current one.

Results:
* `exists_ofOrder`: every order of all shards of a family is a recency order.
* `RotationConfig.stateAt_cases`: the clock gives a state exactly if the time passed
  in the current period fits, and which one.
* `add_sub_mod_eq_iff`, `mem_take_countdown_iff`: the shard of an earlier period
  stands as far back in the countdown as there are periods between, going around
  after the last shard.
-/

namespace RotatedShards

/-! ## Recency orders -/

namespace RotationState

theorem firstFault_eq_none_of {count : Nat} {seen ids : List ShardId}
    (hall : ∀ s ∈ ids, s.within count = true ∧ s ∉ seen) (hnodup : ids.Nodup) :
    firstFault count seen ids = none := by
  induction ids generalizing seen with
  | nil => rfl
  | cons s rest ih =>
    obtain ⟨hs, hrest⟩ := List.nodup_cons.mp hnodup
    obtain ⟨hw, hseen⟩ := hall s List.mem_cons_self
    rw [firstFault, if_neg (by simp [hw]), if_neg hseen]
    refine ih (fun t ht => ?_) hrest
    obtain ⟨htw, htseen⟩ := hall t (List.mem_cons_of_mem _ ht)
    refine ⟨htw, fun hm => ?_⟩
    rcases List.mem_cons.mp hm with rfl | hm
    · exact hs ht
    · exact htseen hm

theorem firstFault_eq_none_iff {count : Nat} {ids : List ShardId} :
    firstFault count [] ids = none ↔ (∀ s ∈ ids, s.within count = true) ∧ ids.Nodup := by
  constructor
  · intro h
    obtain ⟨hall, hnodup⟩ := firstFault_eq_none h
    exact ⟨fun s hs => (hall s hs).1, hnodup⟩
  · rintro ⟨hall, hnodup⟩
    exact firstFault_eq_none_of (fun s hs => ⟨hall s hs, List.not_mem_nil⟩) hnodup

/-- Every order of all shards of a family is the order of a state. -/
theorem exists_ofOrder {count : Nat} {ordered : List ShardId} (hc : 0 < count)
    (hlen : ordered.length = count) (hw : ∀ s ∈ ordered, s.within count = true)
    (hnodup : ordered.Nodup) (elapsed period : Duration) :
    ∃ s, ofOrder count ordered elapsed period = .ok s ∧
      s.ordered = ordered ∧ s.elapsed = elapsed ∧ s.period = period := by
  have hf := firstFault_eq_none_iff.mpr ⟨hw, hnodup⟩
  unfold ofOrder
  rw [dif_neg (by omega), dif_neg (by simp [hlen])]
  split
  · rename_i fault hfault
    rw [hf] at hfault
    cases hfault
  · exact ⟨_, rfl, rfl, rfl, rfl⟩

/-! ## Counting down -/

@[simp] theorem length_countdown (count current : Nat) :
    (countdown count current).length = count := by
  simp [countdown]

theorem getElem?_countdown {count i : Nat} (current : Nat) (h : i < count) :
    (countdown count current)[i]? = some (.ofIndex ((current + count - i) % count)) := by
  simp [countdown, h]

/-- Counting down from the shard of period `a`, the position of the shard of an
    earlier period `b` is the number of periods between, going around. -/
theorem add_sub_mod_eq_iff {n a b i : Nat} (hi : i < n) (hba : b ≤ a) :
    (a % n + n - i) % n = b % n ↔ i = (a - b) % n := by
  have hsum : a % n + n - i + i ≡ a [MOD n] := by
    rw [Nat.sub_add_cancel (by omega)]
    show (a % n + n) % n = a % n
    rw [Nat.add_mod_right, Nat.mod_mod]
  have hback : a - b + b = a := Nat.sub_add_cancel hba
  calc (a % n + n - i) % n = b % n
      ↔ a % n + n - i ≡ b [MOD n] := Iff.rfl
    _ ↔ a % n + n - i + i ≡ b + i [MOD n] := ⟨Nat.ModEq.add_right i, Nat.ModEq.add_right_cancel' i⟩
    _ ↔ a - b + b ≡ i + b [MOD n] := by
        rw [hback, Nat.add_comm i b]
        exact ⟨hsum.symm.trans, hsum.trans⟩
    _ ↔ a - b ≡ i [MOD n] := ⟨Nat.ModEq.add_right_cancel' b, Nat.ModEq.add_right b⟩
    _ ↔ i = (a - b) % n := by
        rw [Nat.ModEq, Nat.mod_eq_of_lt hi]
        exact eq_comm

/-- Position `i` of the countdown holds the shard of `i` periods ago. -/
theorem add_sub_mod {n a i : Nat} (hi : i < n) (hia : i ≤ a) :
    (a % n + n - i) % n = (a - i) % n := by
  rw [add_sub_mod_eq_iff hi (Nat.sub_le a i), Nat.sub_sub_self hia, Nat.mod_eq_of_lt hi]

variable {count : Nat}

theorem ofIndex_mod_inj (hpos : 0 < count) (hmax : count ≤ 2147483647) {i j : Nat} :
    ShardId.ofIndex (i % count) = .ofIndex (j % count) ↔ i % count = j % count := by
  have hi := Nat.mod_lt i hpos
  have hj := Nat.mod_lt j hpos
  exact ShardId.ofIndex_inj (by omega) (by omega)

/-- The shard of period `b` is among the first `m` of the countdown from period `a`
    if it lies less than `m` periods back, going around. -/
theorem mem_take_countdown_iff (hpos : 0 < count) (hmax : count ≤ 2147483647) {a b m : Nat}
    (hba : b ≤ a) (hm : m ≤ count) :
    ShardId.ofIndex (b % count) ∈ (countdown count (a % count)).take m ↔ (a - b) % count < m := by
  rw [List.mem_take_iff_getElem]
  simp only [length_countdown, Nat.min_eq_left hm]
  constructor
  · rintro ⟨i, hi, heq⟩
    have hic : i < count := by omega
    have hget := getElem?_countdown (a % count) hic
    rw [List.getElem?_eq_getElem (by simpa using hic), heq, Option.some.injEq,
      ofIndex_mod_inj hpos hmax] at hget
    rw [← (add_sub_mod_eq_iff hic hba).mp hget.symm]
    exact hi
  · intro h
    have hic : (a - b) % count < count := Nat.mod_lt _ hpos
    refine ⟨(a - b) % count, h, ?_⟩
    have hget := getElem?_countdown (a % count) hic
    rw [List.getElem?_eq_getElem (by simpa using hic), Option.some.injEq] at hget
    rw [hget, (add_sub_mod_eq_iff hic hba).mpr rfl]

theorem nodup_countdown (hmax : count ≤ 2147483647) {current : Nat} (hc : current < count) :
    (countdown count current).Nodup := by
  refine List.Nodup.map_on (fun i hi j hj h => ?_) List.nodup_range
  rw [List.mem_range] at hi hj
  -- `i` is as far back from period `current + count` as the period that `j` leads to
  have hmod : (current + count) % count = current := by
    rw [Nat.add_mod_right, Nat.mod_eq_of_lt hc]
  have hback := add_sub_mod_eq_iff (n := count) (a := current + count) (b := current + count - j)
    (i := i) hi (by omega)
  rw [hmod, Nat.sub_sub_self (by omega), Nat.mod_eq_of_lt hj] at hback
  exact hback.mp ((ofIndex_mod_inj (by omega) hmax).mp h)

theorem within_countdown (hmax : count ≤ 2147483647) {current : Nat} {s : ShardId}
    (hs : s ∈ countdown count current) : s.within count = true := by
  obtain ⟨step, hstep, rfl⟩ := List.mem_map.mp hs
  rw [List.mem_range] at hstep
  have := Nat.mod_lt (current + count - step) (show 0 < count by omega)
  exact ShardId.within_ofIndex this (by omega)

theorem exists_ofCurrent_ofIndex (hmax : count ≤ 2147483647) {current : Nat}
    (hc : current < count) (elapsed period : Duration) :
    ∃ s, ofCurrent count (.ofIndex current) elapsed period = .ok s ∧
      s.ordered = countdown count current ∧ s.elapsed = elapsed ∧ s.period = period := by
  have hw : ∀ id ∈ countdown count current, id.within count = true :=
    fun _ => within_countdown hmax
  have hn := nodup_countdown hmax hc
  unfold ofCurrent
  rw [if_neg (by omega), ShardId.position?_ofIndex (by omega)]
  simp only [hc, if_true]
  exact exists_ofOrder (by omega) (length_countdown count current) hw hn elapsed period

theorem getElem?_zero_ordered (s : RotationState) : s.ordered[0]? = some s.current := by
  rw [← List.head?_eq_getElem?, List.head?_eq_some_head s.ordered_ne_nil]
  rfl

theorem current_mem (s : RotationState) : s.current ∈ s.ordered := List.head_mem s.ordered_ne_nil

theorem ne_noRotation (s : RotationState) {shard : ShardId} (h : shard ∈ s.ordered) :
    shard ≠ .noRotation := (ShardId.addresses_of_within (s.ordered_within shard h)).1

theorem addresses_of_mem (s : RotationState) {count : Nat} (hs : s.numShards = count)
    {shard : ShardId} (h : shard ∈ s.ordered) : shard.addresses count = true :=
  hs ▸ (ShardId.addresses_of_within (s.ordered_within shard h)).2

theorem ordered_eq_of_only (s : RotationState) (hs : s.numShards = 1) : s.ordered = [.first] := by
  obtain ⟨shard, hshard⟩ := List.length_eq_one_iff.mp hs
  have hmem : shard ∈ s.ordered := hshard ▸ List.mem_singleton_self shard
  obtain ⟨i, hi, hlt⟩ := ShardId.addresses_iff.mp (s.addresses_of_mem hs hmem)
  have hfirst := ShardId.ofIndex_of_tableIndex? hi
  rw [if_neg (s.ne_noRotation hmem), Nat.lt_one_iff.mp hlt] at hfirst
  rw [hshard, ← hfirst]
  rfl

theorem current_eq_of_only (s : RotationState) (hs : s.numShards = 1) : s.current = .first :=
  List.mem_singleton.mp (s.ordered_eq_of_only hs ▸ s.current_mem)

end RotationState

/-! ## States by the clock -/

namespace RotationConfig

/-- A configuration without a fault has shards, has an id for each, and has periods
    of some length. -/
theorem fault?_eq_none_iff {c : RotationConfig} :
    c.fault? = none ↔ 0 < c.numShards.toNat ∧ c.numShards.toNat ≤ 2147483647 ∧
      0 < c.rotationPeriod.nanos ∧ c.queryRange ≠ some 0 := by
  have hzero : c.numShards = 0 ↔ c.numShards.toNat = 0 := UInt64.toNat_inj.symm
  have hmax : 2147483647 < c.numShards ↔ 2147483647 < c.numShards.toNat := UInt64.lt_iff_toNat_lt
  unfold fault?
  split_ifs with h1 h2 h3 h4
  · simp [hzero.mp h1]
  · have := hmax.mp h2
    simp
    omega
  · simp [h3]
  · simp [h4]
  · rw [hzero] at h1
    rw [hmax] at h2
    simp only [true_iff]
    exact ⟨by omega, by omega, by omega, h4⟩

/-- The nanoseconds from the epoch to an instant, none before the epoch. -/
def passed (c : RotationConfig) (now : Instant) : Nat :=
  (now.since (.ofMillis c.epochMillis)).nanos

/-- The number of periods that are over at an instant. -/
def periodAt (c : RotationConfig) (now : Instant) : Nat :=
  c.passed now / c.rotationPeriod.nanos

/-- The state of a family at an instant: counting down from the shard whose turn it
    is, with the time that has passed in its period, which fits 64 bits. -/
structure StateAt (c : RotationConfig) (now : Instant) (s : RotationState) : Prop where
  ordered : s.ordered =
    RotationState.countdown c.numShards.toNat (c.periodAt now % c.numShards.toNat)
  elapsed : s.elapsed.nanos = c.passed now % c.rotationPeriod.nanos
  elapsed_lt : s.elapsed.nanos < 18446744073709551616
  period : s.period = c.rotationPeriod

variable {c : RotationConfig} {now : Instant}

theorem passed_eq (c : RotationConfig) (now : Instant) :
    (c.passed now : Int) = max 0 (now.nanos - c.epochMillis.toNat * 1000000) := by
  simp only [passed, Instant.nanos_since, Instant.nanos_ofMillis]
  omega

theorem stateAt_of_lt {elapsed : Duration}
    (helapsed : elapsed.nanos = c.passed now % c.rotationPeriod.nanos)
    (hlt : elapsed.nanos < 18446744073709551616) :
    c.stateAt now =
      match RotationState.ofCurrent c.numShards.toNat
        (.ofIndex (c.periodAt now % c.numShards.toNat)) elapsed c.rotationPeriod with
      | .ok state => .ok state
      | .error fault => .error (.configuration (.state fault)) := by
  obtain ⟨nanos, hnanos⟩ := elapsed
  cases helapsed
  exact dif_pos hlt

theorem stateAt_of_le
    (h : 18446744073709551616 ≤ c.passed now % c.rotationPeriod.nanos) :
    c.stateAt now = .error (.configuration .timeDoesNotFit) :=
  dif_neg (Nat.not_lt.mpr h)

/-- The clock of a valid configuration gives a state if the time passed in the
    current period fits, and fails otherwise. -/
theorem stateAt_cases (hc : c.fault? = none) (now : Instant) :
    (c.passed now % c.rotationPeriod.nanos < 18446744073709551616 ∧
      ∃ s, c.stateAt now = .ok s ∧ c.StateAt now s) ∨
    (18446744073709551616 ≤ c.passed now % c.rotationPeriod.nanos ∧
      c.stateAt now = .error (.configuration .timeDoesNotFit)) := by
  obtain ⟨hpos, hmax, -, -⟩ := fault?_eq_none_iff.mp hc
  by_cases hfit : c.passed now % c.rotationPeriod.nanos < 18446744073709551616
  · obtain ⟨elapsed, helapsed⟩ : ∃ elapsed : Duration,
        elapsed.nanos = c.passed now % c.rotationPeriod.nanos := ⟨⟨_, by omega⟩, rfl⟩
    obtain ⟨s, hs, ho, rfl, hp⟩ := RotationState.exists_ofCurrent_ofIndex hmax
      (Nat.mod_lt (c.periodAt now) hpos) elapsed c.rotationPeriod
    rw [stateAt_of_lt helapsed (helapsed ▸ hfit), hs]
    exact Or.inl ⟨hfit, s, rfl, ho, helapsed, helapsed ▸ hfit, hp⟩
  · exact Or.inr ⟨by omega, stateAt_of_le (by omega)⟩

theorem StateAt.of_stateAt (hc : c.fault? = none) {s : RotationState}
    (hs : c.stateAt now = .ok s) : c.StateAt now s := by
  rcases stateAt_cases hc now with ⟨-, s', hs', hstate⟩ | ⟨-, he⟩
  · rw [hs'] at hs
    cases hs
    exact hstate
  · rw [he] at hs
    cases hs

theorem StateAt.numShards_eq {s : RotationState} (h : c.StateAt now s) :
    s.numShards = c.numShards.toNat := by
  rw [RotationState.numShards, h.ordered, RotationState.length_countdown]

theorem StateAt.current_eq (hc : c.fault? = none) {s : RotationState} (h : c.StateAt now s) :
    s.current = .ofIndex (c.periodAt now % c.numShards.toNat) := by
  have hpos := (fault?_eq_none_iff.mp hc).1
  have hget := s.getElem?_zero_ordered
  rw [h.ordered, RotationState.getElem?_countdown _ hpos, Nat.sub_zero, Nat.add_mod_right,
    Nat.mod_mod] at hget
  exact (Option.some.inj hget).symm

/-! ## Two instants -/

theorem passed_mono (c : RotationConfig) {w t : Instant} (h : w.nanos ≤ t.nanos) :
    c.passed w ≤ c.passed t := by
  have hw := c.passed_eq w
  have ht := c.passed_eq t
  omega

theorem periodAt_mono (c : RotationConfig) {w t : Instant} (h : w.nanos ≤ t.nanos) :
    c.periodAt w ≤ c.periodAt t :=
  Nat.div_le_div_right (c.passed_mono h)

theorem passed_le_add (c : RotationConfig) {w t : Instant} {d : Nat}
    (h : t.nanos - w.nanos ≤ d) : c.passed t ≤ c.passed w + d := by
  have hw := c.passed_eq w
  have ht := c.passed_eq t
  omega

end RotationConfig

/-! ## Sources by the clock -/

namespace RotationSource

theorem clock?_eq_ok_iff {c : RotationConfig} {source : RotationSource} :
    clock? c = .ok source ↔
      c.fault? = none ∧ source = { numShards := c.numShards.toNat, stateAt := c.stateAt } := by
  unfold clock?
  cases c.fault? with
  | none => simp [eq_comm]
  | some fault => simp

end RotationSource

end RotatedShards
