import RotatedShards.Execution.Engine

/-!
# Clients

A client is one engine together with the binders that were opened on it and the
clocks that rotations go by. It takes one command after the other and replies to
each.

Main definitions:

* `Client.execute`, `Client.start`, `Client.wait`: executing a binder, at once or
  in two steps.
* `Command`, `Reply`, `Client.step`: everything that can be asked of a client.
* `Client.run`: the replies to a series of commands.
-/

namespace RotatedShards

/-- An engine, the binders opened so far, the time that supplied sources of
    rotation states go by, the time of the system, and how often a supplied source
    has been read. -/
structure Client (σ α : Type) where
  engine : Engine σ α
  systemClock : Instant
  binders : List (Binder α) := []
  clock : Instant := .unixEpoch
  reads : Nat := 0

namespace Client

variable {σ α : Type}

/-- A client on a store that nothing has been sent to. -/
def fresh (store : σ) (systemClock : Instant) : Client σ α :=
  { engine := .fresh store, systemClock }

/-! ## Rotation -/

/-- Reads the state of a query's rotation (`rotation_state`). -/
def readState (c : Client σ α) (q : Query α) :
    Except QueryError RotationState × Client σ α :=
  if q.supplied then (q.source.stateAt c.clock, { c with reads := c.reads + 1 })
  else (q.source.stateAt c.systemClock, c)

/-- Reads the shards in range of a query (`execution_plan`). -/
def readPlan (c : Client σ α) (q : Query α) : Except QueryError (List ShardId) × Client σ α :=
  let (state, c) := c.readState q
  (state >>= q.resolve, c)

/-! ## Binders -/

/-- Opens a binder (`binder`), which gets the next number. -/
def openBinder (c : Client σ α) (q : Query α) : Client σ α :=
  { c with binders := c.binders ++ [Binder.fresh c.binders.length q] }

/-- Changes a binder. A change that is refused leaves it as it is. -/
def adjust (c : Client σ α) (b : Binder α) (change : Adjustment) :
    Except QueryError Unit × Client σ α :=
  match b.adjust change with
  | .ok b' => (.ok (), { c with binders := c.binders.set b.id b' })
  | .error error => (.error error, c)

/-! ## Execution -/

/-- Plans an execution. The binder is frozen whether there is a plan or not, and
    the state of the rotation counts as read only if the plan depends on it. -/
def plan (c : Client σ α) (b : Binder α) (mode : Mode) :
    Except QueryError Plan × Client σ α :=
  let c := { c with binders := c.binders.set b.id b.freeze }
  let (state, read) := c.readState b.query
  (b.plan mode state, if b.needsState mode then read else c)

variable [Backend σ]

/-- Starts an execution and leaves its task as the last one of the engine. -/
def start (c : Client σ α) (b : Binder α) (mode : Mode) : Client σ α :=
  let (plan, c) := c.plan b mode
  { c with engine := c.engine.start b.query mode plan }

/-- Waits for the result of a task. -/
def wait (c : Client σ α) (task : Nat) : Except QueryError (Answer α) × Client σ α :=
  let (result, engine) := c.engine.wait task
  (result, { c with engine })

/-- Executes a binder and waits for its result. -/
def execute (c : Client σ α) (b : Binder α) (mode : Mode) :
    Except QueryError (Answer α) × Client σ α :=
  if mode = .sync then
    let (plan, c) := c.plan b mode
    let (result, engine) := c.engine.call b.query plan
    (result, { c with engine })
  else
    (c.start b mode).wait c.engine.tasks.length

/-! ## Commands -/

/-- What can happen to a client: its store is changed behind its back, its clock is
    set, a rotation is read, binders are opened, changed and executed, results are
    waited for, the pool gives a task a turn of its own accord, and the log is handed
    over. Binders and tasks go by their numbers. -/
inductive Command (σ α : Type)
  | alterStore (change : σ → σ)
  | setClock (now : Instant)
  | readState (query : Query α)
  | readPlan (query : Query α)
  | openBinder (query : Query α)
  | adjust (binder : Nat) (change : Adjustment)
  | execute (binder : Nat) (mode : Mode)
  | start (binder : Nat) (mode : Mode)
  | wait (task : Nat)
  | turn (task : Nat)
  | takeLog

/-- What a client replies. A task that was started is finished if nothing was
    sent for it. -/
inductive Reply (α : Type)
  | done
  | state (state : Except QueryError RotationState)
  | plan (shards : Except QueryError (List ShardId))
  | opened (binder : Nat)
  | adjusted (result : Except QueryError Unit)
  | started (task : Nat) (finished : Bool)
  | result (result : Except QueryError (Answer α))
  | log (entries : List LogEntry)
  | unknownBinder

/-- The reply to a command, and the client after it. -/
def step (c : Client σ α) : Command σ α → Reply α × Client σ α
  | .alterStore change =>
    let connection := { c.engine.connection with store := change c.engine.connection.store }
    (.done, { c with engine := { c.engine with connection } })
  | .setClock now => (.done, { c with clock := now })
  | .readState query => (c.readState query).map .state id
  | .readPlan query => (c.readPlan query).map .plan id
  | .openBinder query => (.opened c.binders.length, c.openBinder query)
  | .adjust binder change =>
    match c.binders[binder]? with
    | some b => (c.adjust b change).map .adjusted id
    | none => (.unknownBinder, c)
  | .execute binder mode =>
    match c.binders[binder]? with
    | some b => (c.execute b mode).map .result id
    | none => (.unknownBinder, c)
  | .start binder mode =>
    match c.binders[binder]? with
    | some b =>
      let task := c.engine.tasks.length
      let c := c.start b mode
      (.started task ((c.engine.tasks[task]?.map Task.isRejected).getD false), c)
    | none => (.unknownBinder, c)
  | .wait task => (c.wait task).map .result id
  | .turn task => (.done, { c with engine := c.engine.turn task })
  | .takeLog => (.log c.engine.log, { c with engine := { c.engine with log := [] } })

/-- The replies to a series of commands, and the client after them. -/
def run (c : Client σ α) : List (Command σ α) → List (Reply α) × Client σ α
  | [] => ([], c)
  | command :: rest =>
    let (reply, c) := c.step command
    let (replies, c) := run c rest
    (reply :: replies, c)

end Client

end RotatedShards
