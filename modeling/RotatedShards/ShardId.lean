import RotatedShards.Json.Decode
import RotatedShards.Text.Record

/-!
# Shard ids

A shard is one table of a family whose tables take turns in receiving writes.
Its id is its position in the family; `-1` says that the family does not rotate
and stands for the first table.

Main definitions:

* `ShardId.tableIndex?`: the table that an id addresses.
* `ShardId.ofIndex`: the id of a table.
-/

namespace RotatedShards

/-- The id of a shard. -/
structure ShardId where
  raw : Int32
deriving DecidableEq

namespace ShardId

/-- The id that says that there is no rotation. -/
def noRotation : ShardId := ⟨-1⟩

/-- The first shard. -/
def first : ShardId := ⟨0⟩

/-- `is_no_rotation`: the id says that there is no rotation. -/
def isNoRotation (s : ShardId) : Bool := s.raw == -1

/-- `table_index`: the table that an id addresses, the first one without rotation, and
    none for any other negative id. -/
def tableIndex? (s : ShardId) : Option Nat :=
  if s.isNoRotation then some 0
  else if s.raw < 0 then none
  else some s.raw.toInt.toNat

/-- `from_index`: the id of a table. Indices past the last id share that one. -/
def ofIndex (index : Nat) : ShardId := ⟨Int32.ofNat (min index 2147483647)⟩

/-- The table that an id of a rotating family addresses: its own position, so
    none if the id is negative. -/
def position? (s : ShardId) : Option Nat := if s.isNoRotation then none else s.tableIndex?

/-- The id is a position in a rotating family of `count` shards. -/
def within (s : ShardId) (count : Nat) : Bool :=
  match s.position? with
  | some index => index < count
  | none => false

/-- An id addresses one of `count` tables. -/
def addresses (s : ShardId) (count : Nat) : Bool :=
  match s.tableIndex? with
  | some index => index < count
  | none => false

/-- Ids are ordered as numbers. -/
instance : Ord ShardId := ⟨fun a b => compare a.raw b.raw⟩

/-! ## Text and wire form -/

/-- The id as a number. -/
def text (s : ShardId) : String := toString s.raw.toInt

/-- The id as shown to an operator. -/
def shown (s : ShardId) : String :=
  Text.tagged "ShardId" (if s.isNoRotation then "NO_ROTATION" else s.text)

/-- The wire form, a number. -/
def toJson (s : ShardId) : Json := .int s.raw.toInt

/-- Reads the wire form. -/
def ofJson (j : Json) : Except DecodeError ShardId := j.signed32.map ShardId.mk

end ShardId

end RotatedShards
