import RotatedShards.Error

/-!
# Merging

How the answers of several shards become one. Answers come in the order of the
plan, the most recent shard first.

Main definitions:

* `Merge.collectAll`: everything.
* `Merge.firstPresent`: the first object, looking no further.
* `Merge.atMostOne`: the only object, more than one being an error.
-/

namespace RotatedShards.Merge

/-- `collect_all`: the objects of every shard. What several shards hold comes once for
    each. -/
def collectAll {α : Type} (shards : List (List α)) : List α := shards.flatten

/-- `first_present`: the first object. What follows the shard that holds it does not
    matter, while an error before it does. -/
def firstPresent {ε α : Type} : List (Except ε (List α)) → Except ε (Option α)
  | [] => .ok none
  | .error e :: _ => .error e
  | .ok [] :: rest => firstPresent rest
  | .ok (a :: _) :: _ => .ok (some a)

/-- How many answers `firstPresent` looks at. -/
def examined {ε α : Type} : List (Except ε (List α)) → Nat
  | [] => 0
  | .ok [] :: rest => examined rest + 1
  | _ :: _ => 1

/-- `at_most_one`: the only object of all shards, if there is one. -/
def atMostOne {α : Type} (query : String) (shards : List (List α)) :
    Except QueryError (Option α) :=
  let found := shards.flatten
  if 1 < found.length then .error (.cardinalityViolation query found.length)
  else .ok found.head?

/-- How many objects the shards hold, if they are more than one. -/
def surplus? {α : Type} (shards : List (List α)) : Option Nat :=
  let found := shards.flatten
  if 1 < found.length then some found.length else none

end RotatedShards.Merge
