import RotatedShards.Error

/-!
# Ranges of shards

How many of the most recent shards a read has to consult. Data older than an
expiration period is dead; once the current shard has outlived it, the oldest
shard in range holds nothing that is still alive and can be left out.

Main definitions:

* `RangePolicy.baseRange`: the range before anything is left out.
* `Resolver.range`, `Resolver.plan`: the range at a state, and its shards, most
  recent first.
-/

namespace RotatedShards

/-- How many shards a read consults. -/
inductive ShardRange
  | fixed (n : Nat)
  | optimal
  | fromConfig
deriving DecidableEq

namespace ShardRange

instance : Inhabited ShardRange := ⟨.optimal⟩

/-- The current shard and the one before it. -/
def optimalCount : Nat := 2

/-- The range as shown to an operator. -/
def shown : ShardRange → String
  | .fixed n => Text.tagged "Fixed" (toString n)
  | .optimal => "Optimal"
  | .fromConfig => "FromRotationConfig"

end ShardRange

/-- What decides on the range of a read: the range itself, the one set in the
    configuration, whether the oldest shard may be left out, and the expiration
    period of the data. -/
structure RangePolicy where
  range : ShardRange
  configuredRange : Option Nat := none
  shrink : Bool := false
  expirationPeriod : Option Duration := none
deriving DecidableEq

namespace RangePolicy

/-- `from_config`: the policy for a family with the given configuration. -/
def ofConfig (range : ShardRange) (shrink : Bool) (c : RotationConfig) : RangePolicy :=
  { range, shrink, configuredRange := c.queryRange.map UInt64.toNat
    expirationPeriod := c.expirationPeriod }

/-- `with_expiration_shrink`: the policy that leaves out the oldest shard for data of a
    given lifetime. -/
def withExpiration (p : RangePolicy) (period : Duration) : RangePolicy :=
  { p with shrink := true, expirationPeriod := some period }

/-- `base_range`: the range before anything is left out, which is positive. -/
def baseRange (p : RangePolicy) : Except QueryError Nat :=
  let positive (n : Nat) : Except QueryError Nat :=
    if n = 0 then .error (.configuration .rangeNotPositive) else .ok n
  match p.range with
  | .fixed n => positive n
  | .optimal => positive ShardRange.optimalCount
  | .fromConfig =>
    match p.configuredRange with
    | some n => positive n
    | none => .error (.configuration .rangeUnset)

/-- The period after which the oldest shard is left out, if it ever is. -/
def expiration (p : RangePolicy) : Except QueryError (Option Duration) :=
  if p.shrink then
    match p.expirationPeriod with
    | some period => .ok (some period)
    | none => .error (.configuration .shrinkWithoutExpiration)
  else .ok none

/-- `validate`: checks what does not depend on a state. -/
def validate (p : RangePolicy) : Except QueryError Unit := do
  let _ ← p.baseRange
  let _ ← p.expiration

end RangePolicy

/-- Decides on ranges. The margin makes up for clocks that disagree. -/
structure Resolver where
  margin : Duration := ⟨1000000000, by decide⟩
deriving DecidableEq

namespace Resolver

/-- The current shard has outlived the expiration period by the margin. -/
def expired (r : Resolver) (state : RotationState) (period : Duration) : Bool :=
  period.saturatingAdd r.margin ≤ state.elapsed

/-- `resolve_range`: the number of shards to consult, the base range, one less once the
    current shard has expired, and no more than there are. -/
def range (r : Resolver) (state : RotationState) (p : RangePolicy) : Except QueryError Nat := do
  let base ← p.baseRange
  let expiration ← p.expiration
  let n := match expiration with
    | some period => if r.expired state period then base - 1 else base
    | none => base
  if n = 0 then .error (.configuration .rangeNotPositive) else .ok (min n state.numShards)

/-- `resolve_shard_set`: the shards to consult, most recent first. -/
def plan (r : Resolver) (state : RotationState) (p : RangePolicy) :
    Except QueryError (List ShardId) :=
  (r.range state p).map state.ordered.take

end Resolver

end RotatedShards
