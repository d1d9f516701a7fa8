import RotatedShards.Error
import RotatedShards.Time.Instant

/-!
# Sources of rotation states

A source knows how many shards a family has and in which state its rotation is
at any instant. States are computed anew each time; they are a function of time.

Main definitions:

* `RotationSource.fixed`: a source that always reports one state.
* `RotationConfig.stateAt`: the state by the clock. The first table is current
  for one period from the epoch on, then the second, and after the last one the
  first again.
* `RotationSource.clock?`: the source that goes by the clock.
-/

namespace RotatedShards

/-- Where the state of a rotation is read, a `RotationInfoProvider`. -/
structure RotationSource where
  numShards : Nat
  stateAt : Instant → Except QueryError RotationState

/-- `rotation_state_at`: the state at an instant by the clock. Instants before the epoch
    count as the epoch. The time passed in the current period has to fit a 64-bit number
    of nanoseconds. -/
def RotationConfig.stateAt (c : RotationConfig) (now : Instant) :
    Except QueryError RotationState :=
  let passed := (now.since (.ofMillis c.epochMillis)).nanos
  let current := passed / c.rotationPeriod.nanos % c.numShards.toNat
  let elapsed := passed % c.rotationPeriod.nanos
  if h : elapsed < 18446744073709551616 then
    match RotationState.ofCurrent c.numShards.toNat (.ofIndex current)
      ⟨elapsed, by omega⟩ c.rotationPeriod with
    | .ok state => .ok state
    | .error fault => .error (.configuration (.state fault))
  else .error (.configuration .timeDoesNotFit)

namespace RotationSource

/-- A source that always reports one state (`StaticRotation`). -/
def fixed (state : RotationState) : RotationSource :=
  { numShards := state.numShards, stateAt := fun _ => .ok state }

/-- A source whose reads all fail. -/
def failing (numShards : Nat) (error : QueryError) : RotationSource :=
  { numShards, stateAt := fun _ => .error error }

/-- The source that goes by the clock (`WallClockRotation`), given a valid
    configuration. -/
def clock? (c : RotationConfig) : Except QueryError RotationSource :=
  match c.fault? with
  | some fault => .error (.configuration (.config fault))
  | none => .ok { numShards := c.numShards.toNat, stateAt := c.stateAt }

end RotationSource

end RotatedShards
