import RotatedShards.Config.Rotation
import RotatedShards.Consistency
import RotatedShards.Rotation.State

/-!
# Errors

Everything that can go wrong between the definition of a query and its result.
An error is its cause; its text, code and category are functions of it.

Main definitions:

* `QueryError`: the causes, grouped by who has to act.
* `QueryError.message?`: the text of an error.
* `ErrorCode`: stable numbers, the category in the upper byte.
-/

namespace RotatedShards

/-! ## Causes -/

/-- A setting, a definition or an argument that cannot be right. `reported` is
    the text of a cause that lies outside the engine. -/
inductive Misconfiguration
  | config (fault : ConfigFault)
  | state (fault : StateFault)
  | timeDoesNotFit
  | rangeUnset
  | rangeNotPositive
  | shrinkWithoutExpiration
  | shardCountMismatch (claimed configured : Nat)
  | noStatements
  | statementCount (expected got : Nat)
  | statementArity (index slots : Nat)
  | shardOutOfRange (shard : ShardId) (count : Nat)
  | slotOutOfRange (slot count : Nat)
  | unknownParameter (name : String)
  | notSerial (level : Consistency)
  | noStatementFor (shard : ShardId) (count : Nat)
  | statementMissing (index : Nat)
  | parameterCount (expected got : Nat)
  | reported (text : String)

/-- A request that the chosen way of execution cannot serve. -/
inductive Unsupported
  | spansShards (query : String)
  | reported (text : String)

/-- A failure behind the connection: reported by the store, or met while rows
    were decoded. -/
inductive BackendFault
  | noTable (shard : ShardId)
  | missingColumn (name : String)
  | notText (column : Nat)
  | reported (text : String)

/-- A failure of the task that was to produce a result. -/
inductive WorkerFault
  | panicked
  | resultTaken
  | reported (text : String)

/-- Why a call has no result, a `ClientError`. -/
inductive QueryError
  | configuration (cause : Misconfiguration)
  | unsupported (cause : Unsupported)
  | alreadyExecuted
  | cardinalityViolation (query : String) (count : Nat)
  | backend (fault : BackendFault)
  | worker (fault : WorkerFault)

/-! ## Texts -/

/-- The text of a cause. -/
def Misconfiguration.message : Misconfiguration → String
  | .config fault => fault.message
  | .state fault => fault.message
  | .timeDoesNotFit => "number too large to fit in target type"
  | .rangeUnset => "range must be set in the rotation configuration"
  | .rangeNotPositive => "range must be positive"
  | .shrinkWithoutExpiration => "expiration shrink requires an expiration period"
  | .shardCountMismatch claimed configured =>
    s!"rotation provider reports {claimed} shards, configuration has {configured}"
  | .noStatements => "no prepared statements"
  | .statementCount expected got => s!"expected {expected} prepared statements, got {got}"
  | .statementArity index slots => s!"statement {index} does not take {slots} parameters"
  | .shardOutOfRange shard count => s!"shard {shard.text} out of range 0..{count}"
  | .slotOutOfRange slot count => s!"slot index {slot} out of range 0..{count}"
  | .unknownParameter name => s!"unknown parameter {name}"
  | .notSerial level => s!"{level.name} is not a serial consistency level"
  | .noStatementFor shard count =>
    s!"no prepared statement for shard {shard.text} (have {count})"
  | .statementMissing index => s!"missing statement {index}"
  | .parameterCount expected got => s!"expected {expected} parameters, got {got}"
  | .reported text => text

/-- The text of a cause. -/
def Unsupported.message : Unsupported → String
  | .spansShards query =>
    s!"\"{query}\" spans several shards and does not support merging results; " ++
      "use execute_async_and_map*"
  | .reported text => text

/-- The text of a fault. -/
def BackendFault.message : BackendFault → String
  | .noTable shard => s!"no table for shard {shard.text}"
  | .missingColumn name => s!"missing column {name}"
  | .notText column => s!"column {column} is not text"
  | .reported text => text

/-- The text of a fault. That of a panic names a task by its number in the
    running process, so there is none to state. -/
def WorkerFault.message? : WorkerFault → Option String
  | .panicked => none
  | .resultTaken => some "result already taken"
  | .reported text => some text

namespace QueryError

/-- The text of an error, if it has one of its own. -/
def message? : QueryError → Option String
  | .configuration cause => some ("invalid configuration: " ++ cause.message)
  | .unsupported cause => some ("unsupported operation: " ++ cause.message)
  | .alreadyExecuted => some "query already executed; bindings are frozen"
  | .cardinalityViolation query count =>
    some s!"too many results from {query}: {count} rows across shards"
  | .backend fault => some ("backend error: " ++ fault.message)
  | .worker fault => fault.message?.map fun text => "worker task failed: " ++ text

/-- The text of the failure that an error passes on. -/
def source? : QueryError → Option String
  | .backend fault => some fault.message
  | _ => none

end QueryError

/-! ## Codes -/

/-- The kind of an error. -/
inductive ErrorCode
  | configuration
  | unsupported
  | alreadyExecuted
  | cardinalityViolation
  | backend
  | worker
deriving DecidableEq

namespace ErrorCode

/-- The stable number of a kind. -/
def number : ErrorCode → Nat
  | .configuration => 0x100
  | .unsupported => 0x101
  | .alreadyExecuted => 0x102
  | .cardinalityViolation => 0x200
  | .backend => 0x300
  | .worker => 0x301

/-- The name of a kind. -/
def name : ErrorCode → String
  | .configuration => "Configuration"
  | .unsupported => "Unsupported"
  | .alreadyExecuted => "AlreadyExecuted"
  | .cardinalityViolation => "CardinalityViolation"
  | .backend => "Backend"
  | .worker => "Worker"

/-- Who has to act, read off the upper byte of the number. -/
def category (code : ErrorCode) : String :=
  match code.number / 0x100 with
  | 1 => "Usage"
  | 2 => "Data"
  | 3 => "Runtime"
  | _ => "Unknown"

end ErrorCode

namespace QueryError

/-- `code`: the kind of an error. -/
def code : QueryError → ErrorCode
  | .configuration _ => .configuration
  | .unsupported _ => .unsupported
  | .alreadyExecuted => .alreadyExecuted
  | .cardinalityViolation .. => .cardinalityViolation
  | .backend _ => .backend
  | .worker _ => .worker

/-- `is_retryable`: the call may be repeated, since what failed is a store that may
    recover. -/
def isRetryable : QueryError → Bool
  | .backend _ => true
  | _ => false

end QueryError

end RotatedShards
