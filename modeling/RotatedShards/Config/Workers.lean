import RotatedShards.Config.Rotation

/-!
# Worker configuration

How many threads decode and merge the answers of the shards, and what they are
called.
-/

namespace RotatedShards

/-- The threads that decode and merge. -/
structure WorkerConfig where
  threads : UInt64 := 4
  threadName : String := "rotor-worker"
deriving DecidableEq

namespace WorkerConfig

/-- Four threads. -/
def default : WorkerConfig := {}

instance : Inhabited WorkerConfig := ⟨default⟩

/-- What `validate` reports: the first thing wrong with a configuration. -/
def fault? (c : WorkerConfig) : Option ConfigFault :=
  if c.threads = 0 then some .noWorkers
  else if c.threadName = "" then some .unnamedWorkers
  else none

/-- The names of the fields, in the order that an array lists them. -/
def fieldNames : List String := ["worker_threads", "thread_name"]

/-- The wire form of a configuration. -/
def toJson (c : WorkerConfig) : Json :=
  .obj [("thread_name", .str c.threadName), ("worker_threads", .int c.threads.toNat)]

/-- A configuration with one field read. -/
def setField (c : WorkerConfig) (field : String) (j : Json) : Except DecodeError WorkerConfig :=
  match field with
  | "worker_threads" => j.size.map fun n => { c with threads := n }
  | "thread_name" => j.text.map fun s => { c with threadName := s }
  | _ => .ok c

/-- Reads the wire form. Fields that are left out have their default. -/
def ofJson (j : Json) : Except DecodeError WorkerConfig :=
  j.record "ExecutorConfig" fieldNames default setField

end WorkerConfig

end RotatedShards
