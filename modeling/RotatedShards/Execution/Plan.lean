import RotatedShards.Binder

/-!
# Plans

What an execution is about to send. The shards follow from the query, the binder
and the state of the rotation: a family of one table has only that one; a pinned
shard wins over everything else; a write goes to the current shard; and any other
read spans the shards in range.

Main definitions:

* `Mode`: the ways of execution, and `Answer`: their results.
* `Binder.route`: which of the four rules applies.
* `Binder.plan`: the statements to send, or why there are none.
* `LogEntry`: what the engine reports about an execution.
-/

namespace RotatedShards

/-! ## Modes and answers -/

/-- How a query is executed: for its raw rows, on the calling thread (`execute`) or
    apart from it (`execute_async`), or for its objects, all of them, the first one or
    the only one (`execute_async_and_map`, and with `_one` or `_at_most_one`). -/
inductive Mode
  | sync
  | async
  | all
  | one
  | atMostOne
deriving DecidableEq

/-- The mode can merge the answers of several shards. -/
def Mode.merges : Mode → Bool
  | .sync | .async => false
  | .all | .one | .atMostOne => true

/-- What an execution results in. -/
inductive Answer (α : Type)
  | rows (rows : RawRows)
  | items (items : List α)
  | item (item : Option α)

/-! ## Routes -/

/-- Where an execution is headed: for one shard that is known beforehand, for the
    current one, or for those in range. -/
inductive Route
  | shard (shard : ShardId)
  | current
  | window
deriving DecidableEq

namespace Binder

variable {α : Type}

/-- The route of an execution, by the rules of `single_shard`. -/
def route (b : Binder α) : Route :=
  if b.query.numShards = 1 then .shard .first
  else match b.pinned with
    | some shard => .shard shard
    | none => if b.query.upsert then .current else .window

/-- The execution has to know the state of the rotation. -/
def needsState (b : Binder α) (mode : Mode) : Bool :=
  match b.route with
  | .shard _ => false
  | .current => true
  | .window => mode.merges

end Binder

/-! ## Plans -/

/-- The statements of an execution: one for a shard, named as it was selected, or
    one for each of the shards in range, the most recent first. -/
inductive Plan
  | single (shard : ShardId) (statement : BoundStatement)
  | fanOut (shards : List ShardId) (statements : List BoundStatement)

/-- The statements of a plan. -/
def Plan.statements : Plan → List BoundStatement
  | .single _ statement => [statement]
  | .fanOut _ statements => statements

/-- The plan of an execution (`plan`, and `single_statement` where answers are not
    merged), given what the source of states answers. Either all statements can be
    made or there is no plan. -/
def Binder.plan {α : Type} (b : Binder α) (mode : Mode)
    (state : Except QueryError RotationState) : Except QueryError Plan :=
  match b.route with
  | .shard shard => (b.materialize shard).map (.single shard)
  | .current => do
    let shard := (← state).current
    (b.materialize shard).map (.single shard)
  | .window =>
    if mode.merges then do
      let shards ← b.query.resolve (← state)
      (shards.mapM b.materialize).map (.fanOut shards)
    else .error (.unsupported (.spansShards b.query.text))

/-! ## Log -/

/-- What the engine reports: the shards that a query is sent to, and a read for
    at most one object that found several. -/
inductive LogEntry
  | single (query : String) (shard : ShardId)
  | fanOut (query : String) (shards : List ShardId)
  | surplus (query : String) (count : Nat)
deriving DecidableEq

/-- The line of an entry, behind its level. -/
def LogEntry.line : LogEntry → String
  | .single query shard => s!"DEBUG \"{query}\" query from single shard {shard.text}"
  | .fanOut query shards =>
    let ids := ",".intercalate (shards.map ShardId.text)
    s!"DEBUG \"{query}\" fetch from shards {ids}"
  | .surplus query count =>
    s!"WARN \"{query}\" returned {count} rows across shards, expected at most one"

/-- What `single_statement` and `plan` report about a plan for a query. -/
def Plan.logEntry (query : String) : Plan → LogEntry
  | .single shard _ => .single query shard
  | .fanOut shards _ => .fanOut query shards

end RotatedShards
