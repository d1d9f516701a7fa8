import RotatedShards.Config.Workers
import RotatedShards.Error
import RotatedShards.Text.Quoted
import RotatedShards.Text.Record

/-!
# Worker pools

The threads on which responses are waited for, decoded and merged: those of the
surrounding program, those that all engines share, or those of one engine.
-/

namespace RotatedShards

/-- A pool of worker threads. A dedicated one starts and stops its own threads. -/
structure WorkerPool where
  name : String
  dedicated : Bool
deriving DecidableEq

/-- How a task on a pool ended. -/
inductive TaskEnd (α : Type)
  | returned (result : Except QueryError α)
  | panicked

/-- What waiting for a task results in. A panic stays inside its task. -/
def TaskEnd.result {α : Type} : TaskEnd α → Except QueryError α
  | .returned result => result
  | .panicked => .error (.worker .panicked)

namespace WorkerPool

/-- `from_handle`: the threads of the surrounding program. -/
def external : WorkerPool := ⟨"external", false⟩

/-- `new`: threads for one engine, given a valid configuration. -/
def ofConfig (c : WorkerConfig) : Except QueryError WorkerPool :=
  match c.fault? with
  | some fault => .error (.configuration (.config fault))
  | none => .ok ⟨c.threadName, true⟩

/-- The threads that all engines share, with the default configuration. -/
def shared : WorkerPool := ⟨WorkerConfig.default.threadName, true⟩

/-- The name of a thread, counted from zero. -/
def threadName (p : WorkerPool) (index : Nat) : String := s!"{p.name}-{index}"

/-- The pool as shown to an operator. -/
def shown (p : WorkerPool) : String :=
  Text.record "WorkerPool"
    [("name", Text.quoted p.name), ("dedicated", Text.truth p.dedicated)]

end WorkerPool

end RotatedShards
