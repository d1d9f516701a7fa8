import RotatedShards.Rotation.Range
import RotatedShards.Rotation.Source
import RotatedShards.Rows
import RotatedShards.Statement

/-!
# Queries

A query is defined once for a family of tables: its text, its parameter slots, a
prepared statement for each shard, and how reads that span shards are answered.
Building it checks everything that can be checked before it is executed.

Main definitions:

* `Definition`: what a query is defined by.
* `Definition.build`: the query, or the first thing wrong with its definition.
* `Query.resolve`: the shards that a read consults in a given state.
-/

namespace RotatedShards

/-! ## Options -/

/-- How a read for the first object goes through the shards: one after the other
    until one has it, or all at once. -/
inductive FirstPresent
  | sequential
  | parallel
deriving DecidableEq

/-- The mode as shown to an operator. -/
def FirstPresent.shown : FirstPresent → String
  | .sequential => "Sequential"
  | .parallel => "Parallel"

instance : Inhabited FirstPresent := ⟨.sequential⟩

/-- How executions of a query go about it. A pinned shard is the only one that is
    addressed. -/
structure ExecutionOptions where
  range : ShardRange := .optimal
  shrink : Bool := false
  firstPresent : FirstPresent := .sequential
  pinned : Option ShardId := none
deriving DecidableEq

/-- The options as shown to an operator. -/
def ExecutionOptions.shown (o : ExecutionOptions) : String :=
  Text.record "ExecutionOptions"
    [("range", o.range.shown), ("use_expiration_shrink", Text.truth o.shrink),
      ("first_present", o.firstPresent.shown),
      ("pinned_shard", Text.optional (o.pinned.map ShardId.shown))]

/-! ## Queries -/

/-- A query, ready to be bound (`ShardedQuery`). `supplied` says that its definition came with a
    source of rotation states, rather than going by the system's clock. -/
structure Query (α : Type) where
  text : String
  slots : List String
  statements : List PreparedStatement
  upsert : Bool
  mapper : RowMapper α
  source : RotationSource
  supplied : Bool
  numShards : Nat
  resolver : Resolver
  policy : RangePolicy
  options : ExecutionOptions

namespace Query

variable {α : Type}

/-- `slot_index`: the first slot with a given name. -/
def slotIndex? (q : Query α) (name : String) : Option Nat := q.slots.idxOf? name

/-- The shards that a read consults in a given state, most recent first. -/
def resolve (q : Query α) (state : RotationState) : Except QueryError (List ShardId) :=
  q.resolver.plan state q.policy

/-- The query as shown to an operator. -/
def shown (q : Query α) : String :=
  Text.record "ShardedQuery"
    [("query", Text.quoted q.text), ("slots", Text.listed (q.slots.map Text.quoted)),
      ("upsert", Text.truth q.upsert), ("num_shards", toString q.numShards),
      ("options", q.options.shown)]

end Query

/-- `check_shard`: checks that a shard has a table in a family of `count` shards. -/
def checkShard (shard : ShardId) (count : Nat) : Except QueryError Unit :=
  if shard.addresses count then .ok ()
  else .error (.configuration (.shardOutOfRange shard count))

/-! ## Definitions -/

/-- What a query is defined by (`ShardedQueryBuilder`). Without a source of its own it
    goes by the clock of its configuration. -/
structure Definition (α : Type) where
  text : String
  mapper : RowMapper α
  slots : List String := []
  statements : Option (List PreparedStatement) := none
  upsert : Bool := false
  rotation : RotationConfig := {}
  source : Option RotationSource := none
  options : ExecutionOptions := {}

namespace Definition

variable {α : Type}

/-- The range policy of a definition. -/
def policy (d : Definition α) : RangePolicy :=
  .ofConfig d.options.range d.options.shrink d.rotation

/-- The source of rotation states. -/
def sourceOrClock (d : Definition α) : Except QueryError RotationSource :=
  match d.source with
  | some source => .ok source
  | none => RotationSource.clock? d.rotation

/-- Checks that there is a statement for each of `count` shards, and that each
    takes a parameter for every slot. -/
def checkStatements (d : Definition α) (count : Nat) :
    Except QueryError (List PreparedStatement) :=
  match d.statements with
  | none => .error (.configuration .noStatements)
  | some statements =>
    if statements.length ≠ count then
      .error (.configuration (.statementCount count statements.length))
    else
      match statements.findIdx? fun p => p.params ≠ d.slots.length with
      | some index => .error (.configuration (.statementArity index d.slots.length))
      | none => .ok statements

/-- `build`: the query of a definition. Only reads that may span shards need a range. -/
def build (d : Definition α) : Except QueryError (Query α) := do
  match d.rotation.fault? with
  | some fault => .error (.configuration (.config fault))
  | none =>
    let source ← d.sourceOrClock
    let count := d.rotation.numShards.toNat
    if source.numShards ≠ count then
      .error (.configuration (.shardCountMismatch source.numShards count))
    else
      let statements ← d.checkStatements count
      match d.options.pinned with
      | some shard => checkShard shard count
      | none => if 1 < count ∧ d.upsert = false then d.policy.validate else .ok ()
      .ok
        { text := d.text, slots := d.slots, statements, upsert := d.upsert, mapper := d.mapper
          source, supplied := d.source.isSome, numShards := count
          resolver := ⟨d.rotation.clockSkewMargin⟩, policy := d.policy, options := d.options }

end Definition

end RotatedShards
