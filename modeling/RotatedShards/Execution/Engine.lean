import RotatedShards.Execution.Gathering
import RotatedShards.Execution.Pool

/-!
# The engine

The engine sends the statements of a plan over its connection, keeps the tasks
that have not been waited for, and counts what it does. Tasks go on by turns.
The pool gives them in any order and at any moment, whether somebody waits for
the task or its result has been dropped; to wait for a result is to sit through
the turns that its task still takes. Turns that others have meanwhile are turns
before the wait, since nobody but the task itself can tell the difference.

Time is a number of milliseconds that passes until the responses have come in
that a turn is about. Responses to other tasks that are due by then come in as
well.

Main definitions:

* `Statistics`: the counters.
* `Task`: what is left of an execution.
* `Engine.start`: issues the statements of a plan and leaves a task.
* `Engine.turn`: lets a task go on.
* `Engine.wait`: waits for the result of a task.
* `Engine.call`: executes a plan on the calling thread.
-/

namespace RotatedShards

/-! ## Counters -/

/-- The `ExecutorStats`: counts of executions that address one shard and of those that
    span several, of statements issued, of reads that found more than the one object
    they allow, and of statements that failed. -/
structure Statistics where
  single : Nat := 0
  fanOut : Nat := 0
  requests : Nat := 0
  violations : Nat := 0
  failures : Nat := 0
deriving DecidableEq

namespace Statistics

/-- The counters in order. -/
def toList (s : Statistics) : List Nat :=
  [s.single, s.fanOut, s.requests, s.violations, s.failures]

/-- The counters as shown to an operator. -/
def shown (s : Statistics) : String :=
  Text.record "ExecutorStats"
    [("single_shard_executions", toString s.single), ("fan_out_executions", toString s.fanOut),
      ("shard_requests", toString s.requests), ("cardinality_violations", toString s.violations),
      ("backend_failures", toString s.failures)]

/-- A plan has been accepted. -/
def countPlan (s : Statistics) : Plan → Statistics
  | .single .. => { s with single := s.single + 1 }
  | .fanOut .. => { s with fanOut := s.fanOut + 1 }

/-- A gathering has been settled. -/
def countSettlement {α : Type} (s : Statistics) (r : Settlement α) : Statistics :=
  { s with
    failures := s.failures + r.failures
    violations := s.violations + if r.surplus.isSome then 1 else 0 }

end Statistics

/-! ## Tasks -/

/-- What is left of an execution: nothing, since there was no plan for it; to
    gather responses, from the next turn of any task or since then, with the times
    at which those that have not come in are due; to ask the next shard of a walk,
    or to wait for the response of one, with the time at which it is due, before
    those that are left; or nothing but to hand over the result. -/
inductive Task (α : Type)
  | rejected (error : QueryError)
  | queued (work : Gathering α)
  | running (work : Gathering α) (due : List Nat)
  | walking (mapper : RowMapper α) (statements : List BoundStatement)
  | asking (work : Gathering α) (due : Nat) (rest : List BoundStatement)
  | settled (result : Except QueryError (Answer α))
  | taken

namespace Task

variable {α : Type}

/-- The result is there without waiting, since nothing was sent. -/
def isRejected : Task α → Bool
  | .rejected _ => true
  | _ => false

/-- The pending result of a task as shown to an operator, who can see whether it
    was there from the start. -/
def shown (task : Task α) : String :=
  Text.record "PendingResult" [("finished", Text.truth task.isRejected)]

/-- The delays of a gathering begin. -/
def begin (now : Nat) : Task α → Task α
  | .queued work => .running work (work.responses.map fun r => now + r.delay)
  | task => task

/-- How many responses come in by a given time. -/
def landed (time : Nat) : Task α → Nat
  | .running _ due => due.countP (· ≤ time)
  | .asking _ due _ => if due ≤ time then 1 else 0
  | _ => 0

/-- The gathering that is settled by a given time, and when that is. -/
def settledBy? (time : Nat) : Task α → Option (Nat × Gathering α)
  | .running work due =>
    if due.all (· ≤ time) then some (due.foldl max 0, work) else none
  | .asking work due _ => if due ≤ time then some (due, work) else none
  | _ => none

/-- A walk goes on with the statements that are left unless a response decides it. -/
def ofResponse (work : Gathering α) (rest : List BoundStatement) : Task α :=
  match work.settle.result with
  | .ok (.item none) => .walking work.mapper rest
  | result => .settled result

/-- The task at a later time. -/
def pass (time : Nat) : Task α → Task α
  | .running work due =>
    if due.all (· ≤ time) then .settled work.settle.result
    else .running work (due.filter (time < ·))
  | .asking work due rest => if due ≤ time then ofResponse work rest else .asking work due rest
  | task => task

/-- When the responses have come in that the next turn of a task is about. -/
def ready (now : Nat) : Task α → Nat
  | .queued work => now + work.duration
  | .running _ due => max now (due.foldl max 0)
  | .asking _ due _ => max now due
  | _ => now

/-- How many turns a task takes until its result is there, at most: one for a
    gathering; for a walk one for each shard, and one for the last response. -/
def turnsLeft : Task α → Nat
  | .queued _ | .running .. => 1
  | .walking _ statements => statements.length + 1
  | .asking _ _ rest => rest.length + 1
  | _ => 0

end Task

/-- A plan is executed shard by shard: a sequential read for the first object. -/
def Query.walks {α : Type} (query : Query α) (mode : Mode) : Plan → Bool
  | .single .. => false
  | .fanOut .. => mode == .one && query.options.firstPresent == .sequential

/-! ## The engine -/

/-- A `FanOutExecutor`: a connection, the counters, the log, the tasks in the order in
    which they were started, and the time. -/
structure Engine (σ α : Type) where
  connection : Connection σ
  stats : Statistics := {}
  log : List LogEntry := []
  tasks : List (Task α) := []
  time : Nat := 0

namespace Engine

variable {σ α : Type}

/-- An engine on a store that nothing has been sent to. -/
def fresh (store : σ) : Engine σ α := { connection := { store } }

/-- The engine as shown to an operator, with the pool that it runs on. -/
def shown (e : Engine σ α) (pool : WorkerPool) : String :=
  Text.record "FanOutExecutor" [("pool", pool.shown), ("stats", e.stats.shown)]

/-! ### Bookkeeping -/

/-- A plan for a query has been accepted. -/
def accept (e : Engine σ α) (query : String) (plan : Plan) : Engine σ α :=
  { e with stats := e.stats.countPlan plan, log := e.log ++ [plan.logEntry query] }

/-- A gathering has been settled. -/
def record (e : Engine σ α) (work : Gathering α) : Engine σ α :=
  let settlement := work.settle
  { e with
    stats := e.stats.countSettlement settlement
    log := e.log ++ (settlement.surplus.map (LogEntry.surplus work.query)).toList }

/-- Statements have failed (`backend_failure`). -/
def countFailures (e : Engine σ α) (count : Nat) : Engine σ α :=
  { e with stats := { e.stats with failures := e.stats.failures + count } }

/-! ### Sending -/

variable [Backend σ]

/-- Issues a statement and counts it (`record_request`). -/
def ask (e : Engine σ α) (statement : BoundStatement) : Response × Engine σ α :=
  let (response, connection) := e.connection.ask statement
  (response,
    { e with connection, stats := { e.stats with requests := e.stats.requests + 1 } })

/-- `dispatch`: issues a statement whose response is waited for apart from the caller. -/
def send (e : Engine σ α) (statement : BoundStatement) : Response × Engine σ α :=
  let (response, e) := e.ask statement
  (response, { e with connection := e.connection.launch })

/-- Issues statements one after the other, before any response comes in. -/
def sendAll (e : Engine σ α) : List BoundStatement → List Response × Engine σ α
  | [] => ([], e)
  | statement :: rest =>
    let (response, e) := e.send statement
    let (responses, e) := sendAll e rest
    (response :: responses, e)

omit [Backend σ] in
/-- Adds a task. -/
def enqueue (e : Engine σ α) (task : Task α) : Engine σ α :=
  { e with tasks := e.tasks ++ [task] }

/-- Starts to execute a plan. Its statements are issued at once, as `execute_async` and
    `dispatch_and_merge` do, except for a walk (`first_present_sequential`), which
    issues each one when it gets there. Either way the task is handed to the pool
    (`submit`). -/
def launch (e : Engine σ α) (query : Query α) (mode : Mode) (plan : Plan) : Engine σ α :=
  if query.walks mode plan then e.enqueue (.walking query.mapper plan.statements)
  else
    let (responses, e) := e.sendAll plan.statements
    e.enqueue (.queued ⟨mode.merging plan, query.text, query.mapper, responses⟩)

/-- Starts an execution, whose plan may have failed. -/
def start (e : Engine σ α) (query : Query α) (mode : Mode) :
    Except QueryError Plan → Engine σ α
  | .error error => e.enqueue (.rejected error)
  | .ok plan => (e.accept query.text plan).launch query mode plan

/-- `execute`, on the calling thread, where no other task has a turn. A crash would take
    down the caller here; the failure of a task stands in for that, since no store that
    crashes is called in this way. -/
def call (e : Engine σ α) (query : Query α) :
    Except QueryError Plan → Except QueryError (Answer α) × Engine σ α
  | .error error => (.error error, e)
  | .ok plan =>
    let e := e.accept query.text plan
    match plan.statements with
    | [] => (.ok (.rows .empty), e)
    | statement :: _ =>
      let (response, e) := e.ask statement
      match response.outcome with
      | .rows rows => (.ok (.rows rows), e)
      | .failed fault => (.error (.backend fault), e.countFailures 1)
      | .crashed => (.error (.worker .panicked), e)

/-! ### Turns -/

omit [Backend σ] in
/-- Every gathering that was started begins to wait for its responses. -/
def begin (e : Engine σ α) : Engine σ α :=
  { e with tasks := e.tasks.map (Task.begin e.time) }

omit [Backend σ] in
/-- The gatherings that are settled by a given time, in the order in which that
    happens, and at one time in the order in which they were started. -/
def settledBy (e : Engine σ α) (time : Nat) : List (Gathering α) :=
  let due := e.tasks.filterMap (Task.settledBy? time)
  (due.mergeSort fun a b => a.1 ≤ b.1).map Prod.snd

omit [Backend σ] in
/-- Time passes: responses come in, and gatherings that have all of theirs are
    settled. -/
def advance (e : Engine σ α) (time : Nat) : Engine σ α :=
  let landed := (e.tasks.map (Task.landed time)).foldl (· + ·) 0
  let e' := (e.settledBy time).foldl record e
  { e' with
    connection := e.connection.land landed
    tasks := e.tasks.map (Task.pass time)
    time := time }

omit [Backend σ] in
/-- Puts a task in the place of another one. -/
def put (e : Engine σ α) (index : Nat) (task : Task α) : Engine σ α :=
  { e with tasks := e.tasks.set index task }

/-- A walk (`first_present_sequential`) asks the next shard, or has found nothing if
    none is left. -/
def proceed (e : Engine σ α) (task : Nat) : Engine σ α :=
  match e.tasks[task]? with
  | some (.walking mapper (statement :: rest)) =>
    let (response, e) := e.send statement
    e.put task (.asking (.ofStep mapper response) (e.time + response.delay) rest)
  | some (.walking _ []) => e.put task (.settled (.ok (.item none)))
  | _ => e

/-- A turn of a task: time passes until the responses have come in that it waits
    for, and if it is a walk that is not decided by then, it goes on to the next
    shard. -/
def turn (e : Engine σ α) (task : Nat) : Engine σ α :=
  match e.tasks[task]? with
  | some t => (e.begin.advance (t.ready e.time)).proceed task
  | none => e

/-- Several turns of a task. -/
def turns (e : Engine σ α) (task : Nat) : Nat → Engine σ α
  | 0 => e
  | count + 1 => (e.turn task).turns task count

omit [Backend σ] in
/-- The result of a task has been handed over. -/
def take (e : Engine σ α) (task : Nat) : Engine σ α := e.put task .taken

omit [Backend σ] in
/-- The `poll` of a pending result: hands over the result of a task, once. -/
def collect (e : Engine σ α) (task : Nat) : Except QueryError (Answer α) × Engine σ α :=
  match e.tasks[task]? with
  | some (.rejected error) => (.error error, e.take task)
  | some (.settled result) => (result, e.take task)
  | _ => (.error (.worker .resultTaken), e)

omit [Backend σ] in
/-- How many turns a task takes until its result is there, at most. -/
def turnsLeft (e : Engine σ α) (task : Nat) : Nat :=
  (e.tasks[task]?.map Task.turnsLeft).getD 0

/-- `wait`: waits for the result of a task, for the turns that it still takes. -/
def wait (e : Engine σ α) (task : Nat) : Except QueryError (Answer α) × Engine σ α :=
  (e.turns task (e.turnsLeft task)).collect task

end Engine

end RotatedShards
