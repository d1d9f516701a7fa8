import RotatedShards.Proofs.Rotation.Resolution

/-!
# Plans as the current shard ages

The longer the current shard receives writes, the closer the oldest shard in range comes to
being left out, and a wider margin puts that off. Nothing else about a plan depends on either:
of two plans for one recency order the later one is what the earlier one is, less its last
shard at most.

Results:
* `Resolver.Fires.mono`: what is left out stays left out with more time or less margin.
* `Resolver.width_of_ageing`: by how much a range narrows.
* `Resolver.plan_of_ageing`: which shard a plan loses, and when.
-/

namespace RotatedShards.Resolver

/-- The oldest shard stays left out as more time passes, and if the margin is narrower. -/
theorem Fires.mono {r r' : Resolver} {early late : Duration} {p : RangePolicy}
    (helapsed : early ≤ late) (hmargin : r'.margin ≤ r.margin) (h : r.Fires early p) :
    r'.Fires late p := by
  obtain ⟨hshrink, expiration, hexpiration, hreached⟩ := h
  refine ⟨hshrink, expiration, hexpiration, ?_⟩
  rw [Duration.le_iff] at helapsed hmargin
  -- sums that stop at the longest duration are still in order
  have hsum : min (expiration.nanos + r'.margin.nanos) Duration.longest.nanos ≤
      min (expiration.nanos + r.margin.nanos) Duration.longest.nanos :=
    min_le_min_right _ (Nat.add_le_add_left hmargin _)
  exact hsum.trans (hreached.trans helapsed)

theorem take_pred {β : Type} (l : List β) (n : Nat) :
    l.take (n - 1) = if n ≤ l.length then (l.take n).dropLast else l.take n := by
  split_ifs with hn
  · rw [List.dropLast_eq_take, List.take_take, List.length_take]
    congr 1
    omega
  · rw [List.take_of_length_le (by omega), List.take_of_length_le (by omega)]

section

variable {r r' : Resolver} {early late : RotationState} {p : RangePolicy} {base : Nat}
  {kept : List ShardId}

/-- With more time and less margin a range is as wide as before, or narrower by one if only
    now the oldest shard is left out. -/
theorem width_of_ageing (hbase : p.baseRange = .ok base) (helapsed : early.elapsed ≤ late.elapsed)
    (hmargin : r'.margin ≤ r.margin) :
    r.width early p base = r'.width late p base +
      if r'.Fires late.elapsed p ∧ ¬ r.Fires early.elapsed p then 1 else 0 := by
  have hmono : r.Fires early.elapsed p → r'.Fires late.elapsed p := Fires.mono helapsed hmargin
  have hearly := width_eq_sub (r := r) (s := early) hbase
  have hlate := width_eq_sub (r := r') (s := late) hbase
  by_cases hfirst : r.Fires early.elapsed p
  · rw [if_pos hfirst] at hearly
    rw [if_pos (hmono hfirst)] at hlate
    rw [if_neg fun h => h.2 hfirst]
    omega
  · rw [if_neg hfirst] at hearly
    by_cases hsecond : r'.Fires late.elapsed p
    · rw [if_pos hsecond] at hlate
      rw [if_pos ⟨hsecond, hfirst⟩]
      omega
    · rw [if_neg hsecond] at hlate
      rw [if_neg fun h => hsecond h.1]
      omega

theorem validate_of_plan {s : RotationState} (h : r.plan s p = .ok kept) :
    p.validate = .ok () := by
  rcases plan_cases r s p with ⟨e, -, he⟩ | ⟨base, hv, -⟩
  · rw [h] at he
    cases he
  · exact hv

/-- For two states with one recency order, of which the later one is given no more margin: if
    there is a plan at the later one there is one at the earlier one, and the later plan is a
    first part of it that lacks no more than the last shard. It lacks that shard exactly if it
    is left out at the later state and not at the earlier one, and the base range is no wider
    than there are shards. -/
theorem plan_of_ageing (hordered : late.ordered = early.ordered)
    (helapsed : early.elapsed ≤ late.elapsed) (hmargin : r'.margin ≤ r.margin)
    (hkept : r'.plan late p = .ok kept) :
    ∃ base shards, p.baseRange = .ok base ∧ r.plan early p = .ok shards ∧
      kept <+: shards ∧ (kept = shards ∨ kept = shards.dropLast) ∧
      shards.length ≤ kept.length + 1 ∧
      (shards.length = kept.length + 1 ↔
        r'.Fires late.elapsed p ∧ ¬ r.Fires early.elapsed p ∧ base ≤ early.numShards) := by
  have hvalid := validate_of_plan hkept
  obtain ⟨base, hbase, hpos, hcut⟩ := plan_eq_ok hkept
  have hwidth : r.width early p base = r'.width late p base + _ :=
    width_of_ageing hbase helapsed hmargin
  obtain ⟨-, hplan⟩ := range_and_plan_eq_ok (s := early) hvalid hbase
    (by omega : 0 < r.width early p base)
  obtain ⟨-, hshards⟩ := plan_eq_take hbase hplan
  refine ⟨base, _, hbase, hplan, ?_⟩
  generalize early.ordered.take _ = shards at hshards ⊢
  by_cases hdrops : r'.Fires late.elapsed p ∧ ¬ r.Fires early.elapsed p
  · obtain ⟨hlate, hearly⟩ := hdrops
    have hnarrow := width_eq_sub (r := r') (s := late) hbase
    rw [if_pos hlate] at hnarrow
    rw [if_pos ⟨hlate, hearly⟩] at hwidth
    -- the earlier range is the base range, the later one lacks a shard of it
    rw [hordered, show r'.width late p base = base - 1 by omega, take_pred] at hcut
    rw [show r.width early p base = base by omega] at hshards
    rw [← hshards] at hcut
    have hlength : shards.length = min base early.ordered.length := by
      rw [hshards, List.length_take]
    simp only [hlate, hearly, not_false_eq_true, true_and, RotationState.numShards]
    split_ifs at hcut with hfits
    · have hdropped : kept.length = shards.length - 1 := by rw [hcut, List.length_dropLast]
      refine ⟨hcut ▸ List.dropLast_prefix shards, Or.inr hcut, by omega, ?_⟩
      exact iff_of_true (by omega) hfits
    · subst hcut
      exact ⟨List.prefix_rfl, Or.inl rfl, Nat.le_succ _, iff_of_false (by omega) hfits⟩
  · rw [if_neg hdrops, Nat.add_zero] at hwidth
    have hsame : kept = shards := by rw [hcut, hshards, hwidth, hordered]
    subst hsame
    refine ⟨List.prefix_rfl, Or.inl rfl, Nat.le_succ _, iff_of_false (by omega) ?_⟩
    exact fun h => hdrops ⟨h.1, h.2.1⟩

/-- The shard of the second hour is left out once the third one has lasted for three quarters
    of an hour and a second. It is still in range a hundred seconds before, and with a margin
    that is a hundred seconds wider. -/
theorem plan_of_ageing_hourly :
    let policy : RangePolicy := .ofConfig .optimal true hourly
    ∃ early late, hourly.stateAt (.ofMillis 9900000) = .ok early ∧
      hourly.stateAt (.ofMillis 10000000) = .ok late ∧
      plan {} late policy = .ok [⟨2⟩] ∧
      (∃ shards, plan {} early policy = .ok shards ∧ [⟨2⟩] <+: shards ∧ shards.length = 2) ∧
      ∃ shards, plan ⟨⟨101000000000, by decide⟩⟩ late policy = .ok shards ∧
        [⟨2⟩] <+: shards ∧ shards.length = 2 := by
  intro policy
  obtain ⟨early, late, hearly, hlate, hordered, hnewer, holder, hshards, hkept⟩ :
      ∃ early late, hourly.stateAt (.ofMillis 9900000) = .ok early ∧
        hourly.stateAt (.ofMillis 10000000) = .ok late ∧ late.ordered = early.ordered ∧
        early.elapsed = ⟨2700000000000, by decide⟩ ∧ late.elapsed = ⟨2800000000000, by decide⟩ ∧
        early.numShards = 3 ∧ plan {} late policy = .ok [⟨2⟩] :=
    ⟨_, _, rfl, rfl, rfl, rfl, rfl, rfl, rfl⟩
  have hlater : late.numShards = 3 := by rw [RotationState.numShards, hordered]; exact hshards
  refine ⟨early, late, hearly, hlate, hkept, ?_, ?_⟩
  · obtain ⟨base, shards, hbase, hplan, hprefix, -, -, hlonger⟩ := plan_of_ageing (r := {})
      hordered (by rw [hnewer, holder]; decide) (by decide) hkept
    cases hbase
    rw [hnewer, holder, hshards] at hlonger
    exact ⟨shards, hplan, hprefix, hlonger.mpr (by decide)⟩
  · obtain ⟨base, shards, hbase, hplan, hprefix, -, -, hlonger⟩ := plan_of_ageing
      (r := ⟨⟨101000000000, by decide⟩⟩) (rfl : late.ordered = late.ordered)
      (Nat.le_refl late.elapsed.nanos) (by decide) hkept
    cases hbase
    rw [holder, hlater] at hlonger
    exact ⟨shards, hplan, hprefix, hlonger.mpr (by decide)⟩

end

end RotatedShards.Resolver
