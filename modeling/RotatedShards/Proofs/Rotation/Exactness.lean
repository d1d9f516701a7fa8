import RotatedShards.Proofs.Rotation.Clock

/-!
# Exact rotation by the clock

The state that a clock gives, in numbers. No rounding and no narrowing shows in it:
whatever the number of shards, the period and the epoch, the current shard is the
number of whole periods since the epoch modulo the number of shards. The one thing
that can fail is the time passed in the current period, which has to fit a 64-bit
number of nanoseconds.

Results:
* `Instant.ofParts?_epoch`: every epoch can be represented.
* `RotationState.toInt_countdown`: the recency order in numbers.
* `RotationConfig.stateAt_exact`: the state at every instant of every valid
  configuration, and when there is none.
-/

namespace RotatedShards

/-! ## Epochs -/

/-- Every epoch can be represented: its whole seconds stay far below the last second
    of an instant. -/
theorem Instant.ofParts?_epoch (millis : UInt64) :
    ofParts? (millis.toNat / 1000 : Nat) (millis.toNat % 1000 * 1000000) =
      some (ofMillis millis) := by
  have hlt := millis.toNat_lt
  have htotal : ((millis.toNat / 1000 : Nat) : Int) * 1000000000 +
      (millis.toNat % 1000 * 1000000 : Nat) = millis.toNat * 1000000 := by omega
  unfold ofParts?
  simp only [htotal]
  rw [dif_pos (by omega)]
  rfl

/-! ## Recency orders in numbers -/

/-- Counting down, the id at each step is the current one less the step, modulo the
    number of shards. -/
theorem RotationState.toInt_countdown {count : Nat} (hmax : count ≤ 2147483647) (current : Nat) :
    (countdown count current).map (fun id => id.raw.toInt) =
      (List.range count).map fun step : Nat => ((current : Int) - step) % count := by
  rw [countdown, List.map_map]
  refine List.map_congr_left fun step hstep => ?_
  rw [List.mem_range] at hstep
  have hmod := Nat.mod_lt (current + count - step) (show 0 < count by omega)
  -- a whole turn is added before the step is taken away, so that nothing is negative
  have hcast : ((current + count - step : Nat) : Int) = current - step + count := by omega
  rw [Function.comp_apply, ShardId.toInt_ofIndex (by omega), Int.natCast_mod, hcast,
    Int.add_emod_right]

/-! ## States in numbers -/

namespace RotationConfig

/-- The state of a family `passed` nanoseconds after its epoch, in numbers. -/
structure Exact (c : RotationConfig) (passed : Nat) (s : RotationState) : Prop where
  numShards : s.numShards = c.numShards.toNat
  current : s.current.raw.toInt =
    (passed / c.rotationPeriod.nanos % c.numShards.toNat : Nat)
  elapsed : s.elapsed.nanos = passed % c.rotationPeriod.nanos
  elapsed_lt : s.elapsed.nanos < c.rotationPeriod.nanos
  period : s.period = c.rotationPeriod
  ordered : s.ordered.map (fun id => id.raw.toInt) =
    (List.range c.numShards.toNat).map fun step : Nat =>
      (s.current.raw.toInt - step) % c.numShards.toNat

variable {c : RotationConfig} {now : Instant}

theorem StateAt.exact (hc : c.fault? = none) {s : RotationState} (h : c.StateAt now s) :
    c.Exact (c.passed now) s := by
  obtain ⟨hpos, hmax, hperiod, -⟩ := fault?_eq_none_iff.mp hc
  have hturn := Nat.mod_lt (c.periodAt now) hpos
  have hcurrent : s.current.raw.toInt = (c.periodAt now % c.numShards.toNat : Nat) := by
    rw [h.current_eq hc, ShardId.toInt_ofIndex (by omega)]
  exact {
    numShards := h.numShards_eq
    current := hcurrent
    elapsed := h.elapsed
    elapsed_lt := h.elapsed ▸ Nat.mod_lt _ hperiod
    period := h.period
    ordered := by rw [h.ordered, RotationState.toInt_countdown hmax, hcurrent] }

theorem passed_of_le_epoch (h : now.nanos ≤ (Instant.ofMillis c.epochMillis).nanos) :
    c.passed now = 0 := by
  have hpassed := c.passed_eq now
  rw [Instant.nanos_ofMillis] at h
  omega

theorem stateAt_congr {u : Instant} (h : c.passed u = c.passed now) :
    c.stateAt u = c.stateAt now := by
  have hnanos : (u.since (.ofMillis c.epochMillis)).nanos =
    (now.since (.ofMillis c.epochMillis)).nanos := h
  simp only [stateAt, hnanos]

/-- The clock of a valid configuration fails for one reason only. -/
theorem stateAt_eq_error_iff (hc : c.fault? = none) {e : QueryError} :
    c.stateAt now = .error e ↔
      e = .configuration .timeDoesNotFit ∧ 2 ^ 64 ≤ c.passed now % c.rotationPeriod.nanos := by
  rcases stateAt_cases hc now with ⟨hfit, s, hs, -⟩ | ⟨hlarge, he⟩
  · simp only [hs, reduceCtorEq, false_iff, not_and]
    omega
  · simp only [he, Except.error.injEq]
    exact ⟨fun h => ⟨h.symm, hlarge⟩, fun h => h.1.symm⟩

/-- Rotation by the clock is exact. For a valid configuration there is a source, whose
    epoch can be represented and before whose epoch nothing changes. With `D`
    nanoseconds since the epoch, it fails only if the time passed in the current period
    takes more than 64 bits, and then with that error; no current shard that it arrives
    at is ever refused. Otherwise it gives the state of `D` in numbers. -/
theorem stateAt_exact (hc : c.fault? = none) :
    ∃ source, RotationSource.clock? c = .ok source ∧
      source.numShards = c.numShards.toNat ∧
      Instant.ofParts? (c.epochMillis.toNat / 1000 : Nat)
        (c.epochMillis.toNat % 1000 * 1000000) = some (.ofMillis c.epochMillis) ∧
      (∀ now : Instant, now.nanos ≤ (Instant.ofMillis c.epochMillis).nanos →
        source.stateAt now = source.stateAt (.ofMillis c.epochMillis)) ∧
      ∀ (now : Instant) (D : Nat),
        (D : Int) = max 0 (now.nanos - c.epochMillis.toNat * 1000000) →
        (∀ e, source.stateAt now = .error e ↔
          e = .configuration .timeDoesNotFit ∧ 2 ^ 64 ≤ D % c.rotationPeriod.nanos) ∧
        (∀ elapsed, ∃ s, RotationState.ofCurrent c.numShards.toNat
          (.ofIndex (D / c.rotationPeriod.nanos % c.numShards.toNat)) elapsed
          c.rotationPeriod = .ok s) ∧
        (D % c.rotationPeriod.nanos < 2 ^ 64 →
          ∃ s, source.stateAt now = .ok s ∧ c.Exact D s) := by
  obtain ⟨hpos, hmax, -, -⟩ := fault?_eq_none_iff.mp hc
  refine ⟨_, RotationSource.clock?_eq_ok_iff.mpr ⟨hc, rfl⟩, rfl, Instant.ofParts?_epoch _,
    fun now hnow => ?_, fun now D hD => ?_⟩
  · exact stateAt_congr (by rw [passed_of_le_epoch hnow, passed_of_le_epoch le_rfl])
  · have hpassed : D = c.passed now := by
      have := c.passed_eq now
      omega
    subst hpassed
    refine ⟨fun e => stateAt_eq_error_iff hc, fun elapsed => ?_, fun hfit => ?_⟩
    · obtain ⟨s, hs, -⟩ := RotationState.exists_ofCurrent_ofIndex hmax
        (Nat.mod_lt (c.periodAt now) hpos) elapsed c.rotationPeriod
      exact ⟨s, hs⟩
    · rcases stateAt_cases hc now with ⟨-, s, hs, hstate⟩ | ⟨hlarge, -⟩
      · exact ⟨s, hs, hstate.exact hc⟩
      · omega

/-- Two shards that take turns for `2 ^ 65` nanoseconds each, which is more than a
    thousand years. -/
def millennial : RotationConfig :=
  { RotationConfig.default with
    numShards := 2, rotationPeriod := ⟨36893488147419103232, by decide⟩ }

/-- Half of the first turn passes before the time in it does not fit any more. With the
    second turn there are states again. -/
theorem stateAt_exact_millennial :
    ∃ source, RotationSource.clock? millennial = .ok source ∧
      source.stateAt ⟨18446744073709551616, by decide, by decide⟩ =
        .error (.configuration .timeDoesNotFit) ∧
      ∃ s, source.stateAt ⟨36893488147419103233, by decide, by decide⟩ = .ok s ∧
        s.current.raw.toInt = 1 ∧ s.elapsed.nanos = 1 ∧
        s.elapsed.nanos < millennial.rotationPeriod.nanos := by
  obtain ⟨source, hsource, -, -, -, h⟩ := stateAt_exact (c := millennial) (by decide)
  obtain ⟨hlate, -, -⟩ := h ⟨18446744073709551616, by decide, by decide⟩
    18446744073709551616 (by decide)
  obtain ⟨-, -, hnext⟩ := h ⟨36893488147419103233, by decide, by decide⟩
    36893488147419103233 (by decide)
  obtain ⟨s, hs, hexact⟩ := hnext (by decide)
  exact ⟨source, hsource, (hlate _).mpr ⟨rfl, by decide⟩, s, hs, hexact.current, hexact.elapsed,
    hexact.elapsed_lt⟩

end RotationConfig

end RotatedShards
