import RotatedShards.Json.Decode

/-!
# Rotation configuration

How the tables of a family take turns: how many there are, how long each one
receives writes, when the first one started, and how old live data may be.

Main definitions:

* `RotationConfig.fault?`: the first thing wrong with a configuration.
* `RotationConfig.toJson`, `RotationConfig.ofJson`: writing and reading the wire
  form, in which durations are texts.
-/

namespace RotatedShards

/-- What is wrong with a configuration. -/
inductive ConfigFault
  | noShards
  | tooManyShards
  | zeroPeriod
  | zeroQueryRange
  | noWorkers
  | unnamedWorkers
deriving DecidableEq

/-- The text of a fault. -/
def ConfigFault.message : ConfigFault → String
  | .noShards => "num_shards must be at least 1"
  | .tooManyShards => "num_shards does not fit a shard id"
  | .zeroPeriod => "rotation_period must be greater than 0"
  | .zeroQueryRange => "query_range must be positive"
  | .noWorkers => "worker_threads must be greater than 0"
  | .unnamedWorkers => "thread_name must not be empty"

/-- How the tables of a family take turns. The epoch, in milliseconds since the
    Unix epoch, is when the first table starts to receive writes. -/
structure RotationConfig where
  numShards : UInt64 := 1
  rotationPeriod : Duration := ⟨86400 * 1000000000, by decide⟩
  expirationPeriod : Option Duration := none
  queryRange : Option UInt64 := none
  clockSkewMargin : Duration := ⟨1000000000, by decide⟩
  epochMillis : UInt64 := 0
deriving DecidableEq

namespace RotationConfig

/-- The configuration of a single table. -/
def default : RotationConfig := {}

instance : Inhabited RotationConfig := ⟨default⟩

/-- The family rotates. -/
def isRotating (c : RotationConfig) : Bool := 1 < c.numShards

/-- What `validate` reports: the first thing wrong with a configuration. A family has to
    have shards, and no more than there are ids. -/
def fault? (c : RotationConfig) : Option ConfigFault :=
  if c.numShards = 0 then some .noShards
  else if 2147483647 < c.numShards then some .tooManyShards
  else if c.rotationPeriod.nanos = 0 then some .zeroPeriod
  else if c.queryRange = some 0 then some .zeroQueryRange
  else none

/-! ## Wire form -/

/-- The names of the fields, in the order that an array lists them. -/
def fieldNames : List String :=
  ["num_shards", "rotation_period", "expiration_period", "query_range", "clock_skew_margin",
    "epoch_millis"]

/-- A value that may be missing, as null. -/
def nullOr {α : Type} (write : α → Json) : Option α → Json
  | none => .null
  | some a => write a

/-- A duration in its written form. -/
def durationJson (d : Duration) : Json := .str d.text

/-- A count. -/
def countJson (n : UInt64) : Json := .int n.toNat

/-- The wire form of a configuration. -/
def toJson (c : RotationConfig) : Json :=
  .obj [("clock_skew_margin", durationJson c.clockSkewMargin),
    ("epoch_millis", countJson c.epochMillis),
    ("expiration_period", nullOr durationJson c.expirationPeriod),
    ("num_shards", countJson c.numShards),
    ("query_range", nullOr countJson c.queryRange),
    ("rotation_period", durationJson c.rotationPeriod)]

/-- A configuration with one field read. -/
def setField (c : RotationConfig) (field : String) (j : Json) :
    Except DecodeError RotationConfig :=
  match field with
  | "num_shards" => j.size.map fun n => { c with numShards := n }
  | "rotation_period" => j.duration.map fun d => { c with rotationPeriod := d }
  | "expiration_period" => (j.nullable Json.duration).map fun d => { c with expirationPeriod := d }
  | "query_range" => (j.nullable Json.size).map fun n => { c with queryRange := n }
  | "clock_skew_margin" => j.duration.map fun d => { c with clockSkewMargin := d }
  | "epoch_millis" => j.word.map fun n => { c with epochMillis := n }
  | _ => .ok c

/-- Reads the wire form. Fields that are left out have their default. -/
def ofJson (j : Json) : Except DecodeError RotationConfig :=
  j.record "RotationConfig" fieldNames default setField

end RotationConfig

end RotatedShards
