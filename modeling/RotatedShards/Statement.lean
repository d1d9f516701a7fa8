import RotatedShards.Error
import RotatedShards.Value

/-!
# Statements

A statement is prepared once for each shard, under the name of its table, and
bound to values for each execution.

Main definitions:

* `PreparedStatement.bind`: a statement with every parameter bound.
-/

namespace RotatedShards

/-- A statement as prepared for one shard, with its number of parameters. -/
structure PreparedStatement where
  text : String
  params : Nat
deriving DecidableEq

/-- A statement with every parameter bound, addressed to one shard. A missing
    consistency level leaves the choice to the session. -/
structure BoundStatement where
  shard : ShardId
  text : String
  values : List Value
  consistency : Option Consistency := none
  serial : Option Consistency := none

/-- Equality of bound statements, with values compared as such. -/
instance : BEq BoundStatement :=
  ⟨fun a b => a.shard == b.shard && a.text == b.text && a.values == b.values &&
    a.consistency == b.consistency && a.serial == b.serial⟩

/-- `bind`: binds values to the parameters, one to each. -/
def PreparedStatement.bind (p : PreparedStatement) (shard : ShardId) (values : List Value) :
    Except QueryError BoundStatement :=
  if values.length = p.params then .ok { shard, text := p.text, values }
  else .error (.configuration (.parameterCount p.params values.length))

end RotatedShards
