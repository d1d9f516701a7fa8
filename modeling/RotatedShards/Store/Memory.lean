import RotatedShards.Execution.Connection
import RotatedShards.Store.Event
import RotatedShards.Text.Blank

/-!
# The in-memory store

One event table for each shard. Statements that insert add an event to the table
that they address; all others read it, by key unless the first value is null. A
table can be made to answer late, though no later than after thirty years, and to
fail.

Main definitions:

* `MemoryStore.answer`: the response to a statement, and the store after it.
-/

namespace RotatedShards

/-- A table: its events in the order of insertion, the delay of its responses in
    milliseconds, and the text of its failure, if it fails. -/
structure EventTable where
  events : List Event := []
  latency : Nat := 0
  failure : Option String := none
deriving DecidableEq

/-- An event table for each shard, those of a `MemoryDriver`. -/
structure MemoryStore where
  tables : List EventTable
deriving DecidableEq

namespace MemoryStore

/-- Empty tables for `count` shards. -/
def empty (count : Nat) : MemoryStore := ⟨List.replicate count {}⟩

/-! ## Preparation -/

/-- Changes the table of a shard, if there is one. -/
def modify (s : MemoryStore) (shard : Nat) (change : EventTable → EventTable) : MemoryStore :=
  ⟨s.tables.modify shard change⟩

/-- `insert`: adds an event to the table of a shard. -/
def insert (s : MemoryStore) (shard : Nat) (event : Event) : MemoryStore :=
  s.modify shard fun t => { t with events := t.events ++ [event] }

/-- `set_latency`: delays every response of a shard. -/
def setLatency (s : MemoryStore) (shard latency : Nat) : MemoryStore :=
  s.modify shard fun t => { t with latency }

/-- `fail_shard`: makes every statement to a shard fail. -/
def fail (s : MemoryStore) (shard : Nat) (message : String) : MemoryStore :=
  s.modify shard fun t => { t with failure := some message }

/-- The events of a shard (`rows`). -/
def events (s : MemoryStore) (shard : Nat) : List Event :=
  match s.tables[shard]? with
  | some table => table.events
  | none => []

/-! ## Answers -/

/-- The longest delay of a response: thirty years of 365 days, in milliseconds. -/
def longestDelay : Nat := 30 * 365 * 86400 * 1000

/-- The statement inserts: its first word is `INSERT`, in letters of any case. -/
def isInsert (text : String) : Bool :=
  "INSERT".toList.isPrefixOf ((text.toList.dropWhile Text.isBlank).map Char.toUpper)

/-- The event that an insertion adds. Values that are not texts count as empty. -/
def inserted (values : List Value) : Event :=
  let text (i : Nat) : String := (values[i]? >>= Value.asText?).getD ""
  ⟨text 0, text 1⟩

/-- A reading statement with the given values selects an event. -/
def selects (values : List Value) (event : Event) : Bool :=
  match values.head? with
  | some key => key.isNull || key.asText? == some event.key
  | none => true

/-- The rows of the selected events. -/
def selected (values : List Value) (events : List Event) : RawRows :=
  ⟨Event.columns, (events.filter (selects values)).map Event.toRow⟩

/-- `issue`: the response to a statement, and the store after it. -/
def answer (statement : BoundStatement) (s : MemoryStore) : Response × MemoryStore :=
  let index := statement.shard.tableIndex?.getD 0
  match s.tables[index]? with
  | none => ({ outcome := .failed (.noTable statement.shard) }, s)
  | some table =>
    let respond (outcome : Outcome) : Response :=
      { delay := min table.latency longestDelay, outcome }
    match table.failure with
    | some message => (respond (.failed (.reported message)), s)
    | none =>
      if isInsert statement.text then
        (respond (.rows .empty), s.insert index (inserted statement.values))
      else (respond (.rows (selected statement.values table.events)), s)

instance : Backend MemoryStore := ⟨answer⟩

end MemoryStore

end RotatedShards
