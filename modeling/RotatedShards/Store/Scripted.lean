import RotatedShards.Execution.Connection

/-!
# The scripted store

A store whose answers are laid down beforehand, one for each shard. It takes no
notice of what a statement says.
-/

namespace RotatedShards

/-- The outcome of every statement, by shard. Further shards have no rows. -/
structure ScriptedStore where
  outcomes : List Outcome

/-- The response to a statement. -/
def ScriptedStore.respond (s : ScriptedStore) (statement : BoundStatement) : Response :=
  { outcome := s.outcomes.getD (statement.shard.tableIndex?.getD 0) (.rows .empty) }

instance : Backend ScriptedStore := ⟨fun statement s => (s.respond statement, s)⟩

end RotatedShards
