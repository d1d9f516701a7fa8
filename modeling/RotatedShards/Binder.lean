import RotatedShards.Query

/-!
# Binders

A binder holds the values and overrides of one invocation of a query. The first
execution freezes it: from then on every change is refused.

Main definitions:

* `Adjustment`, `Binder.adjust`: the changes that a binder admits.
* `Binder.materialize`: the statement for a shard, with everything applied.
-/

namespace RotatedShards

/-- The bindings of one invocation, a `QueryBinder`. Binders are told apart by their
    numbers. -/
structure Binder (α : Type) where
  id : Nat
  query : Query α
  values : List Value
  consistency : Option Consistency := none
  serial : Option Consistency := none
  pinned : Option ShardId
  executed : Bool := false

/-- A change to the bindings of an invocation: the arguments of `bind`, `bind_named`,
    `with_consistency`, `with_serial_consistency` and `pin_shard`. -/
inductive Adjustment
  | bind (slot : Nat) (value : Value)
  | bindNamed (name : String) (value : Value)
  | consistency (level : Consistency)
  | serial (level : Consistency)
  | pin (shard : ShardId)

namespace Binder

variable {α : Type}

/-- A fresh binder: nothing is bound, and the pin is that of the query. -/
def fresh (id : Nat) (query : Query α) : Binder α :=
  { id, query, values := List.replicate query.slots.length .null, pinned := query.options.pinned }

/-- Two binders are equal if they are the same invocation, whatever they hold. -/
instance : BEq (Binder α) := ⟨fun a b => a.id == b.id⟩

/-- How many different invocations there are among binders. -/
def distinct (bs : List (Binder α)) : Nat := bs.eraseDups.length

/-! ## Changes -/

/-- `ensure_mutable`: a binder that has been executed admits no change. -/
def ensureMutable (b : Binder α) : Except QueryError Unit :=
  if b.executed then .error .alreadyExecuted else .ok ()

/-- `bind`: binds a value to a slot. -/
def bind (b : Binder α) (slot : Nat) (value : Value) : Except QueryError (Binder α) := do
  b.ensureMutable
  if slot < b.values.length then .ok { b with values := b.values.set slot value }
  else .error (.configuration (.slotOutOfRange slot b.values.length))

/-- `bind_named`: binds a value to the first slot with a given name. `bind` checks once
    more that the binder admits it. -/
def bindNamed (b : Binder α) (name : String) (value : Value) :
    Except QueryError (Binder α) := do
  b.ensureMutable
  match b.query.slotIndex? name with
  | some slot => b.bind slot value
  | none => .error (.configuration (.unknownParameter name))

/-- `with_consistency`: sets the consistency. -/
def setConsistency (b : Binder α) (level : Consistency) : Except QueryError (Binder α) := do
  b.ensureMutable
  .ok { b with consistency := some level }

/-- `with_serial_consistency`: sets the serial consistency, which has to be a serial
    level. -/
def setSerial (b : Binder α) (level : Consistency) : Except QueryError (Binder α) := do
  b.ensureMutable
  if level.isSerial then .ok { b with serial := some level }
  else .error (.configuration (.notSerial level))

/-- `pin_shard`: pins the invocation to one shard. -/
def pin (b : Binder α) (shard : ShardId) : Except QueryError (Binder α) := do
  b.ensureMutable
  (checkShard shard b.query.numShards).map fun _ => { b with pinned := some shard }

/-- Applies a change. -/
def adjust (b : Binder α) : Adjustment → Except QueryError (Binder α)
  | .bind slot value => b.bind slot value
  | .bindNamed name value => b.bindNamed name value
  | .consistency level => b.setConsistency level
  | .serial level => b.setSerial level
  | .pin shard => b.pin shard

/-- The binder after an execution call, which has to `freeze` it. -/
def freeze (b : Binder α) : Binder α := { b with executed := true }

/-! ## Statements -/

/-- `materialize`: the statement for a shard, with every value and override applied. -/
def materialize (b : Binder α) (shard : ShardId) : Except QueryError BoundStatement :=
  let statements := b.query.statements
  match shard.tableIndex? with
  | some index =>
    if index < statements.length then
      match statements[index]? with
      | some prepared =>
        (prepared.bind (.ofIndex index) b.values).map fun bound =>
          { bound with consistency := b.consistency, serial := b.serial }
      | none => .error (.configuration (.statementMissing index))
    else .error (.configuration (.noStatementFor shard statements.length))
  | none => .error (.configuration (.noStatementFor shard statements.length))

/-- `bound_statement`: the statement for the pinned shard, or for the only table. -/
def boundStatement (b : Binder α) : Except QueryError BoundStatement :=
  b.materialize (b.pinned.getD .noRotation)

/-- The binder as shown to an operator. -/
def shown (b : Binder α) : String :=
  Text.record "QueryBinder"
    [("id", toString b.id), ("query", Text.quoted b.query.text),
      ("values", Text.listed (b.values.map Value.shown)),
      ("consistency", Text.optional (b.consistency.map Consistency.shown)),
      ("serial_consistency", Text.optional (b.serial.map Consistency.shown)),
      ("pinned_shard", Text.optional (b.pinned.map ShardId.shown)),
      ("executed", Text.truth b.executed)]

end Binder

end RotatedShards
