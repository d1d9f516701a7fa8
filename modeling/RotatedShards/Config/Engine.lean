import RotatedShards.Config.Workers

/-!
# Engine configuration

The rotation of a family of tables together with the threads that serve it.
-/

namespace RotatedShards

/-- The configuration of an engine. -/
structure EngineConfig where
  rotation : RotationConfig := .default
  workers : WorkerConfig := .default
deriving DecidableEq

namespace EngineConfig

/-- Both sections with their defaults. -/
def default : EngineConfig := {}

instance : Inhabited EngineConfig := ⟨default⟩

/-- What `validate` reports: the first thing wrong with a configuration, the rotation
    first. -/
def fault? (c : EngineConfig) : Option ConfigFault :=
  match c.rotation.fault? with
  | some fault => some fault
  | none => c.workers.fault?

/-- The names of the sections, in the order that an array lists them. -/
def fieldNames : List String := ["rotation", "executor"]

/-- The wire form of a configuration. -/
def toJson (c : EngineConfig) : Json :=
  .obj [("executor", c.workers.toJson), ("rotation", c.rotation.toJson)]

/-- A configuration with one section read. -/
def setField (c : EngineConfig) (field : String) (j : Json) : Except DecodeError EngineConfig :=
  match field with
  | "rotation" => (RotationConfig.ofJson j).map fun part => { c with rotation := part }
  | "executor" => (WorkerConfig.ofJson j).map fun part => { c with workers := part }
  | _ => .ok c

/-- Reads the wire form. Sections that are left out have their defaults. -/
def ofJson (j : Json) : Except DecodeError EngineConfig :=
  j.record "EngineConfig" fieldNames default setField

end EngineConfig

end RotatedShards
