import RotatedShards.Execution.Connection
import RotatedShards.Execution.Plan
import RotatedShards.Merge

/-!
# Gatherings

A gathering is the work that is left of an execution once its statements have
been issued: to wait for all responses, to decode their rows and to merge them.
Responses are fixed by then, so its result is too.

Main definitions:

* `Merging`: what is done with the rows of the shards.
* `Gathering.settle`: the result of a gathering and what it adds to the record.
-/

namespace RotatedShards

/-! ## Merging -/

/-- What is done with the rows of the shards: those of the only one are handed on
    as they are or decoded for the first object, or all are decoded and merged. -/
inductive Merging
  | rows
  | first
  | all
  | firstPresent
  | atMostOne
deriving DecidableEq

/-- What a mode does with the rows of a plan. -/
def Mode.merging (mode : Mode) (plan : Plan) : Merging :=
  match mode with
  | .sync | .async => .rows
  | .all => .all
  | .one =>
    match plan with
    | .single .. => .first
    | .fanOut .. => .firstPresent
  | .atMostOne => .atMostOne

/-- Merges the rows of the shards, given in the order of the plan. -/
def Merging.apply {α : Type} (m : Merging) (mapper : RowMapper α) (query : String)
    (shards : List RawRows) : Except QueryError (Answer α) :=
  match m with
  | .rows => .ok (.rows (shards.headD .empty))
  | .first =>
    match shards.head? with
    | some answer => (mapper.decodeOptional answer).map .item
    | none => .ok (.item none)
  | .all => (shards.mapM mapper.decodeMany).map fun found => .items (Merge.collectAll found)
  | .firstPresent => (Merge.firstPresent (shards.map mapper.decodeMany)).map .item
  | .atMostOne => do
    let found ← shards.mapM mapper.decodeMany
    (Merge.atMostOne query found).map .item

/-- How many objects there are where a merge for at most one finds several. An error that a
    mapper comes up with is none of its findings. -/
def Merging.surplus? {α : Type} (m : Merging) (mapper : RowMapper α)
    (shards : List RawRows) : Option Nat :=
  match m with
  | .atMostOne => (shards.mapM mapper.decodeMany).toOption.bind Merge.surplus?
  | _ => none

/-! ## Gatherings -/

/-- The responses to the statements of one execution, in the order of its plan,
    and what is to be done with them. -/
structure Gathering (α : Type) where
  merging : Merging
  query : String
  mapper : RowMapper α
  responses : List Response

/-- What a walk makes of one response. A read for the first object reports nothing
    that takes the text of its query. -/
def Gathering.ofStep {α : Type} (mapper : RowMapper α) (response : Response) : Gathering α :=
  { merging := .first, query := "", mapper, responses := [response] }

/-- The result of a gathering, how many of its statements failed, and how many
    objects a read for at most one found if they were several. -/
structure Settlement (α : Type) where
  result : Except QueryError (Answer α)
  failures : Nat := 0
  surplus : Option Nat := none

/-- `receive_all`: the rows of every shard, or the first failure. -/
def received (outcomes : List Outcome) : Except QueryError (List RawRows) :=
  outcomes.mapM fun
    | .rows rows => .ok rows
    | .failed fault => .error (.backend fault)
    | .crashed => .error (.worker .panicked)

namespace Gathering

variable {α : Type}

/-- How the statements turned out. -/
def outcomes (g : Gathering α) : List Outcome := g.responses.map Response.outcome

/-- The milliseconds until the last response arrives. -/
def duration (g : Gathering α) : Nat := (g.responses.map Response.delay).foldl max 0

/-- The task of `dispatch_and_merge`: waits for every response, then merges. A crash
    takes the whole task down before anything is counted. A failure is counted for each
    statement that failed and reported for the first of them, before anything is
    decoded. -/
def settle (g : Gathering α) : Settlement α :=
  if g.outcomes.any Outcome.isCrash then { result := .error (.worker .panicked) }
  else
    let result := received g.outcomes >>= g.merging.apply g.mapper g.query
    { result, failures := g.outcomes.countP Outcome.isFailure
      surplus := (received g.outcomes).toOption.bind (g.merging.surplus? g.mapper) }

end Gathering

end RotatedShards
