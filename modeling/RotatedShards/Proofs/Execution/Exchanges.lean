import Mathlib.Data.List.MinMax
import Mathlib.Tactic.SplitIfs
import RotatedShards.Client

/-!
# Exchanges of an execution

What one execution adds to the exchanges with the store, in terms of the answers that
the store gives to statements issued one after the other. Waiting for other tasks,
settling them and counting do not touch the store.

Results:
* `Engine.turn_of_some`, `Engine.wait_of_queued`: what a turn and waiting come to.
* `Engine.turn_induct`, `Engine.wait_induct`: what turns and waiting preserve.
* `Engine.start_wait_of_not_walks`: a plan whose statements are all issued at once.
* `Engine.serve_rejected`, `Engine.serve_single`: the exchanges that are added without a
  plan and for one shard.
* `Client.execute_eq_serve`: an execution is served by the engine alone, given the plan.
-/

namespace RotatedShards

variable {σ α : Type}

/-! ## Answers of a store -/

section Trace

variable [Backend σ]

/-- The exchange with a store if a statement is issued. -/
def Exchange.on (store : σ) (statement : BoundStatement) : Exchange :=
  { statement, response := (Backend.answer statement store).1 }

/-- The exchanges with a store to which statements are issued one after the other. -/
def trace (store : σ) : List BoundStatement → List Exchange
  | [] => []
  | statement :: rest =>
    let (response, store) := Backend.answer statement store
    { statement, response } :: trace store rest

theorem map_statement_trace (store : σ) (statements : List BoundStatement) :
    (trace store statements).map Exchange.statement = statements := by
  induction statements generalizing store with
  | nil => rfl
  | cons statement rest ih => rw [trace, List.map_cons, ih]

end Trace

namespace Exchange

/-- How the statement of an exchange turned out. -/
def outcome (x : Exchange) : Outcome := x.response.outcome

/-- The object that an exchange yields for a read for the first one. -/
def read (mapper : RowMapper α) (x : Exchange) : Except QueryError (Option α) :=
  match x.response.outcome with
  | .rows rows => mapper.decodeOptional rows
  | .failed fault => .error (.backend fault)
  | .crashed => .error (.worker .panicked)

/-- The exchange decides a read for the first object: its statement fails, its rows
    cannot be decoded, or it yields an object. -/
def decides (mapper : RowMapper α) (x : Exchange) : Bool :=
  match x.read mapper with
  | .ok none => false
  | _ => true

/-- The exchanges up to the first one that decides a read for the first object. -/
def untilDecided (mapper : RowMapper α) : List Exchange → List Exchange
  | [] => []
  | x :: rest => if x.decides mapper then [x] else x :: untilDecided mapper rest

/-- The first object that exchanges yield, or the failure before it. -/
def firstRead (mapper : RowMapper α) : List Exchange → Except QueryError (Option α)
  | [] => .ok none
  | x :: rest =>
    match x.read mapper with
    | .ok none => firstRead mapper rest
    | result => result

end Exchange

/-! ## Due times -/

theorem le_foldl_max {due : List Nat} {d : Nat} (h : d ∈ due) : d ≤ due.foldl max 0 := by
  rw [List.foldl_max]
  exact le_max_of_le_right (List.le_max?_getD_of_mem h)

theorem Gathering.due_le {g : Gathering α} {now due : Nat}
    (h : due ∈ g.responses.map fun r => now + r.delay) : due ≤ now + g.duration := by
  obtain ⟨r, hr, rfl⟩ := List.mem_map.mp h
  have hdelay : r.delay ≤ g.duration := le_foldl_max (List.mem_map_of_mem hr)
  omega

namespace Task

theorem pass_of_due {time : Nat} {work : Gathering α} {due : List Nat}
    (h : ∀ d ∈ due, d ≤ time) : (running work due).pass time = .settled work.settle.result :=
  if_pos (List.all_eq_true.mpr fun d hd => decide_eq_true (h d hd))

/-- The task once the responses have come in that its next turn is about. -/
def answered : Task α → Task α
  | .queued work | .running work _ => .settled work.settle.result
  | .asking work _ rest => ofResponse work rest
  | task => task

theorem pass_ready (now : Nat) (task : Task α) :
    (task.begin now).pass (task.ready now) = task.answered := by
  cases task with
  | queued work => exact pass_of_due fun due hmem => Gathering.due_le hmem
  | running work due => exact pass_of_due fun d hmem => le_max_of_le_right (le_foldl_max hmem)
  | asking work due rest => exact if_pos (le_max_right now due)
  | rejected error => rfl
  | walking mapper statements => rfl
  | settled result => rfl
  | taken => rfl

end Task

/-! ## Sending -/

namespace Engine

variable [Backend σ]

/-- The responses and the exchanges of statements issued at once are those of the
    statements issued one after the other. -/
theorem sendAll_spec (e : Engine σ α) (statements : List BoundStatement) :
    (e.sendAll statements).1 =
        (trace e.connection.store statements).map Exchange.response ∧
      (e.sendAll statements).2.connection.exchanges =
        e.connection.exchanges ++ trace e.connection.store statements ∧
      (e.sendAll statements).2.tasks = e.tasks := by
  induction statements generalizing e with
  | nil => exact ⟨rfl, (List.append_nil _).symm, rfl⟩
  | cons statement rest ih =>
    obtain ⟨hr, hx, ht⟩ := ih (e.send statement).2
    refine ⟨congrArg ((Exchange.on e.connection.store statement).response :: ·) hr, ?_, ht⟩
    rw [sendAll, hx]
    exact List.append_assoc e.connection.exchanges [Exchange.on e.connection.store statement] _

/-! ## Turns -/

omit [Backend σ] in
theorem getElem?_begin_advance {e : Engine σ α} {t : Nat} {task : Task α}
    (htask : e.tasks[t]? = some task) (time : Nat) :
    (e.begin.advance time).tasks[t]? = some ((task.begin e.time).pass time) := by
  show ((e.tasks.map (Task.begin e.time)).map (Task.pass time))[t]? = _
  rw [List.getElem?_map, List.getElem?_map, htask]
  rfl

/-- In a turn the responses come in that a task waits for, and then it may proceed. -/
theorem turn_of_some {e : Engine σ α} {t : Nat} {task : Task α}
    (htask : e.tasks[t]? = some task) :
    e.turn t = (e.begin.advance (task.ready e.time)).proceed t ∧
      (e.begin.advance (task.ready e.time)).tasks[t]? = some task.answered := by
  refine ⟨by simp only [turn, htask], ?_⟩
  rw [getElem?_begin_advance htask, Task.pass_ready]

/-- To turn is to begin, to let time pass and to proceed, if there is the task. -/
theorem turn_induct {motive : Engine σ α → Prop} {e : Engine σ α} (t : Nat) (h : motive e)
    (begin : ∀ e, motive e → motive e.begin)
    (advance : ∀ e time, motive e → motive (e.advance time))
    (proceed : ∀ e, motive e → motive (e.proceed t)) : motive (e.turn t) := by
  unfold turn
  split
  · exact proceed _ (advance _ _ (begin e h))
  · exact h

theorem turns_induct {motive : Engine σ α → Prop} {e : Engine σ α} (t : Nat) (h : motive e)
    (turn : ∀ e, motive e → motive (e.turn t)) (count : Nat) : motive (e.turns t count) := by
  induction count generalizing e with
  | zero => exact h
  | succ count ih => exact ih (turn e h)

/-- What the turns of a task preserve, and to take its result, waiting for it does. -/
theorem wait_induct {motive : Engine σ α → Prop} {e : Engine σ α} (t : Nat) (h : motive e)
    (turn : ∀ e, motive e → motive (e.turn t)) (take : ∀ e, motive e → motive (e.take t)) :
    motive (e.wait t).2 := by
  have hturns := turns_induct t h turn (e.turnsLeft t)
  unfold wait collect
  split
  · exact take _ hturns
  · exact take _ hturns
  · exact hturns

theorem wait_of_rejected {e : Engine σ α} {i : Nat} {error : QueryError}
    (h : e.tasks[i]? = some (.rejected error)) : e.wait i = (.error error, e.take i) := by
  simp only [wait, turnsLeft, h, Option.map_some, Option.getD_some, Task.turnsLeft, turns, collect]

theorem wait_of_queued {e : Engine σ α} {i : Nat} {work : Gathering α}
    (h : e.tasks[i]? = some (.queued work)) :
    e.wait i =
      (work.settle.result, (e.begin.advance (e.time + work.duration)).take i) := by
  have hturn : e.turn i = (e.begin.advance (e.time + work.duration)).proceed i :=
    (turn_of_some h).1
  have hsettled : (e.begin.advance (e.time + work.duration)).tasks[i]? =
      some (.settled work.settle.result) := (turn_of_some h).2
  have hwait : e.wait i = (e.turn i).collect i := by
    simp only [wait, turnsLeft, h, Option.map_some, Option.getD_some, Task.turnsLeft, turns]
  simp only [hwait, hturn, proceed, hsettled, collect]

/-! ## Executions -/

/-- An execution, given its plan: on the calling thread, or as a task that is waited for
    at once. -/
def serve (e : Engine σ α) (q : Query α) (mode : Mode) (plan : Except QueryError Plan) :
    Except QueryError (Answer α) × Engine σ α :=
  if mode = .sync then e.call q plan else (e.start q mode plan).wait e.tasks.length

/-- The engine is as it was, but for its tasks: its store, the statements issued to it and
    those in flight, the counters, the log and the time. -/
structure Untouched (e e' : Engine σ α) : Prop where
  connection : e'.connection = e.connection
  stats : e'.stats = e.stats
  log : e'.log = e.log
  time : e'.time = e.time

/-- Without a plan nothing is sent or counted. -/
theorem serve_rejected (e : Engine σ α) (q : Query α) (mode : Mode) (error : QueryError) :
    (e.serve q mode (.error error)).1 = .error error ∧
      e.Untouched (e.serve q mode (.error error)).2 := by
  unfold serve
  split_ifs
  · exact ⟨rfl, rfl, rfl, rfl, rfl⟩
  · rw [start, wait_of_rejected List.getElem?_concat_length]
    exact ⟨rfl, rfl, rfl, rfl, rfl⟩

/-- The gathering that is left of a plan whose statements are all issued at once. -/
def gathering (e : Engine σ α) (q : Query α) (mode : Mode) (plan : Plan) : Gathering α :=
  { merging := mode.merging plan, query := q.text, mapper := q.mapper
    responses := (trace e.connection.store plan.statements).map Exchange.response }

omit [Backend σ] in
/-- The raw rows of one shard are handed on as they are. -/
theorem settle_rows (query : String) (mapper : RowMapper α) (x : Exchange) :
    (Gathering.mk .rows query mapper [x.response]).settle.result =
      match x.response.outcome with
      | .rows rows => .ok (.rows rows)
      | .failed fault => .error (.backend fault)
      | .crashed => .error (.worker .panicked) := by
  obtain ⟨statement, delay, outcome⟩ := x
  cases outcome <;> rfl

/-- A call on the calling thread has the result of the task that would be left. -/
theorem call_single (e : Engine σ α) (q : Query α) (shard : ShardId)
    (statement : BoundStatement) :
    (e.call q (.ok (.single shard statement))).1 =
        (e.gathering q .sync (.single shard statement)).settle.result ∧
      (e.call q (.ok (.single shard statement))).2.connection.exchanges =
        e.connection.exchanges ++ trace e.connection.store [statement] := by
  have hask : ((e.accept q.text (.single shard statement)).ask statement).1 =
      (Exchange.on e.connection.store statement).response := rfl
  have hgathering : e.gathering q .sync (.single shard statement) =
      .mk .rows q.text q.mapper [(Exchange.on e.connection.store statement).response] := rfl
  rw [hgathering, settle_rows]
  simp only [call, Plan.statements, hask]
  cases (Exchange.on e.connection.store statement).response.outcome with
  | rows rows => exact ⟨rfl, rfl⟩
  | failed fault => exact ⟨rfl, rfl⟩
  | crashed => exact ⟨rfl, rfl⟩

/-- To start a plan that is not walked is to issue all its statements and to leave their
    gathering. -/
theorem start_of_not_walks (e : Engine σ α) (q : Query α) (mode : Mode) (plan : Plan)
    (hwalks : q.walks mode plan = false) :
    e.start q mode (.ok plan) =
      ((e.accept q.text plan).sendAll plan.statements).2.enqueue
        (.queued (e.gathering q mode plan)) := by
  have hgathering : e.gathering q mode plan =
      .mk (mode.merging plan) q.text q.mapper ((e.accept q.text plan).sendAll plan.statements).1 := by
    rw [((e.accept q.text plan).sendAll_spec plan.statements).1]
    rfl
  rw [hgathering]
  simp only [start, launch, hwalks]
  rfl

theorem start_of_walks (e : Engine σ α) (q : Query α) (mode : Mode) (plan : Plan)
    (hwalks : q.walks mode plan = true) :
    e.start q mode (.ok plan) =
      (e.accept q.text plan).enqueue (.walking q.mapper plan.statements) := by
  simp only [start, launch, hwalks, if_true]

/-- What is waited for after a plan that is not walked has been started is its gathering. -/
theorem start_wait_eq (e : Engine σ α) (q : Query α) (mode : Mode) (plan : Plan)
    (hwalks : q.walks mode plan = false) :
    (e.start q mode (.ok plan)).wait e.tasks.length =
      ((e.gathering q mode plan).settle.result,
        ((e.start q mode (.ok plan)).begin.advance
          ((e.start q mode (.ok plan)).time + (e.gathering q mode plan).duration)).take
            e.tasks.length) := by
  refine wait_of_queued ?_
  rw [start_of_not_walks e q mode plan hwalks, enqueue,
    ((e.accept q.text plan).sendAll_spec plan.statements).2.2]
  exact List.getElem?_concat_length

/-- A plan that is not walked has the result of its gathering, and adds the exchanges
    of all its statements. -/
theorem start_wait_of_not_walks (e : Engine σ α) (q : Query α) (mode : Mode) (plan : Plan)
    (hwalks : q.walks mode plan = false) :
    ((e.start q mode (.ok plan)).wait e.tasks.length).1 =
        (e.gathering q mode plan).settle.result ∧
      ((e.start q mode (.ok plan)).wait e.tasks.length).2.connection.exchanges =
        e.connection.exchanges ++ trace e.connection.store plan.statements := by
  rw [start_wait_eq e q mode plan hwalks]
  refine ⟨rfl, ?_⟩
  -- everything has been sent by then: time that passes adds no exchanges
  show (e.start q mode (.ok plan)).connection.exchanges = _
  rw [start_of_not_walks e q mode plan hwalks]
  exact ((e.accept q.text plan).sendAll_spec plan.statements).2.1

/-- An execution for one shard adds the exchange with it. -/
theorem serve_single (e : Engine σ α) (q : Query α) (mode : Mode) (shard : ShardId)
    (statement : BoundStatement) :
    (e.serve q mode (.ok (.single shard statement))).1 =
        (e.gathering q mode (.single shard statement)).settle.result ∧
      (e.serve q mode (.ok (.single shard statement))).2.connection.exchanges =
        e.connection.exchanges ++ trace e.connection.store [statement] := by
  unfold serve
  split_ifs with hsync
  · subst hsync
    exact e.call_single q shard statement
  · exact e.start_wait_of_not_walks q mode _ rfl

theorem serve_congr (e : Engine σ α) {q q' : Query α} (htext : q.text = q'.text)
    (hmapper : q.mapper = q'.mapper) (hfirst : q.options.firstPresent = q'.options.firstPresent)
    (mode : Mode) (plan : Except QueryError Plan) : e.serve q mode plan = e.serve q' mode plan := by
  cases plan with
  | error error => rfl
  | ok plan =>
    have hwalks : q.walks mode plan = q'.walks mode plan := by
      cases plan with
      | single shard statement => rfl
      | fanOut shards statements =>
        show (mode == .one && q.options.firstPresent == .sequential) = _
        rw [hfirst]
        rfl
    simp only [serve, call, start, launch, htext, hmapper, hwalks]

end Engine

/-! ## Clients -/

namespace Client

/-- The source of a query's states goes by the clock that the client sets for it, or by
    that of the system. -/
def now (c : Client σ α) (q : Query α) : Instant := if q.supplied then c.clock else c.systemClock

theorem readState_fst (c : Client σ α) (q : Query α) :
    (c.readState q).1 = q.source.stateAt (c.now q) := by
  unfold readState now
  split_ifs <;> rfl

theorem plan_eq (c : Client σ α) (b : Binder α) (mode : Mode) :
    (c.plan b mode).1 = b.plan mode (b.query.source.stateAt (c.now b.query)) ∧
      (c.plan b mode).2.engine = c.engine := by
  refine ⟨congrArg (b.plan mode) (readState_fst { c with binders := _ } b.query), ?_⟩
  unfold plan readState
  split_ifs <;> rfl

/-- An execution is served by the engine alone, given the plan. -/
theorem execute_eq_serve [Backend σ] (c : Client σ α) (b : Binder α) (mode : Mode) :
    (c.execute b mode).1 =
        (c.engine.serve b.query mode (b.plan mode (b.query.source.stateAt (c.now b.query)))).1 ∧
      (c.execute b mode).2.engine =
        (c.engine.serve b.query mode (b.plan mode (b.query.source.stateAt (c.now b.query)))).2 := by
  obtain ⟨hplan, hengine⟩ := c.plan_eq b mode
  unfold execute start wait Engine.serve
  split_ifs
  · simp only [hplan, hengine, and_self]
  · simp only [hplan, hengine, and_self]

end Client

end RotatedShards
