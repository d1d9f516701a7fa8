import RotatedShards.Proofs.Execution.Foresight
import RotatedShards.Proofs.Execution.Ledger
import RotatedShards.Proofs.Store.Tables

/-!
# Executions that are dispatched

An execution that issues all its statements when it is started is fixed from then on: what
it results in, which statements it issues and what it adds to the counters. To wait for it
at once or only later, whatever happens in between and whichever tasks have turns then,
comes to the same, and so do any two latencies of the tables.

Results:
* `Outlook.start_eq`: what an execution that is dispatched comes to.
* `Client.Ahead.step`, `Client.Ahead.run`: to have waited already changes nothing else.
* `Client.fixed_when_started`: an execution that is dispatched is fixed when it is started.
-/

namespace RotatedShards

variable {σ α : Type}

/-! ## Effects -/

/-- The sum of counters. -/
def Statistics.plus (s t : Statistics) : Statistics :=
  { single := s.single + t.single, fanOut := s.fanOut + t.fanOut
    requests := s.requests + t.requests, violations := s.violations + t.violations
    failures := s.failures + t.failures }

/-- What an execution comes to: its result, the statements that it issues and what it adds to
    the counters. -/
structure Effect (α : Type) where
  result : Except QueryError (Answer α)
  statements : List BoundStatement := []
  counters : Statistics := {}

section Effects

variable [Backend σ]

/-- What an execution comes to that issues all the statements of its plan to a store. -/
def Effect.on (store : σ) (q : Query α) (mode : Mode) : Except QueryError Plan → Effect α
  | .error error => { result := .error error }
  | .ok plan =>
    let settlement := (Gathering.on store q mode plan).settle
    { result := settlement.result, statements := plan.statements
      counters := (({ requests := plan.statements.length } : Statistics).countPlan
        plan).countSettlement settlement }

/-- An execution that is dispatched issues its statements, is bound to be counted, and
    promises its result, all when it is started. -/
theorem Outlook.start_eq (o : Outlook σ α) (q : Query α) (mode : Mode)
    {plan : Except QueryError Plan} (hplan : ∀ p, plan = .ok p → q.walks mode p = false)
    {effect : Effect α} (heffect : effect = .on o.store q mode plan) :
    o.start q mode plan =
      { store := storeAfter o.store effect.statements
        exchanges := o.exchanges ++ trace o.store effect.statements
        totals := o.totals.plus effect.counters
        promises := o.promises ++ [.result effect.result] } := by
  subst heffect
  cases plan with
  | error error =>
    show o.promise _ = { o with exchanges := o.exchanges ++ [], promises := _ }
    rw [List.append_nil]
    rfl
  | ok plan =>
    rw [start_of_not_walks _ (hplan plan rfl)]
    cases plan with
    | single shard statement =>
      simp only [Outlook.promise, Outlook.count, Outlook.issue, Outlook.accept, Effect.on,
        Statistics.countPlan, Statistics.countSettlement, Statistics.plus, Nat.zero_add,
        Nat.add_zero]
    | fanOut shards statements =>
      simp only [Outlook.promise, Outlook.count, Outlook.issue, Outlook.accept, Effect.on,
        Statistics.countPlan, Statistics.countSettlement, Statistics.plus, Nat.zero_add,
        Nat.add_zero]

end Effects

/-! ## Handing over -/

namespace Outlook

variable {o : Outlook σ α} {t : Nat}

theorem take_promise (ht : t < o.promises.length) (p : Promise α) :
    (o.take t).promise p = (o.promise p).take t := by
  simp only [take, put, promise, List.set_append_left _ _ ht]

theorem take_put_comm {task : Nat} (hne : task ≠ t) (o : Outlook σ α) (p : Promise α) :
    (o.take t).put task p = (o.put task p).take t := by
  simp only [take, put, List.set_comm _ _ hne]

variable [Backend σ]

/-- To start an execution it does not matter that an earlier result has been handed over. -/
theorem take_start (ht : t < o.promises.length) (q : Query α) (mode : Mode)
    (plan : Except QueryError Plan) :
    (o.take t).start q mode plan = (o.start q mode plan).take t := by
  cases plan with
  | error error => exact take_promise ht _
  | ok plan =>
    cases hwalks : q.walks mode plan with
    | true =>
      rw [start_of_walks _ hwalks, start_of_walks _ hwalks]
      exact take_promise (o := o.accept plan) ht _
    | false =>
      rw [start_of_not_walks _ hwalks, start_of_not_walks _ hwalks]
      exact take_promise (o := ((o.accept plan).issue plan.statements).count _) ht _

theorem take_call (o : Outlook σ α) (t : Nat) (q : Query α) (plan : Except QueryError Plan) :
    (o.take t).call q plan = ((o.call q plan).1, (o.call q plan).2.take t) := by
  cases plan with
  | error error => rfl
  | ok plan =>
    simp only [call]
    cases plan.statements with
    | nil => rfl
    | cons statement rest => rfl

theorem take_wait {task : Nat} (hne : task ≠ t) :
    (o.take t).wait task = ((o.wait task).1, (o.wait task).2.take t) := by
  have hget : (o.take t).promises[task]? = o.promises[task]? := List.getElem?_set_ne hne.symm
  unfold wait
  rw [hget]
  cases o.promises[task]? with
  | none => rfl
  | some p =>
    cases p with
    | taken => rfl
    | result result => exact Prod.ext rfl (take_put_comm hne o .taken)
    | walk mapper statements =>
      exact Prod.ext rfl (take_put_comm hne ((o.issue (visited mapper o.store statements)).count
        (walked mapper o.store statements)) .taken)

theorem take_turn {task : Nat} (hne : task ≠ t) :
    (o.take t).turn task = (o.turn task).take t := by
  have hget : (o.take t).promises[task]? = o.promises[task]? := List.getElem?_set_ne hne.symm
  unfold turn
  rw [hget]
  cases o.promises[task]? with
  | none => rfl
  | some p =>
    cases p with
    | taken => rfl
    | result result => rfl
    | walk mapper statements =>
      cases statements with
      | nil => exact take_put_comm hne o _
      | cons statement rest => exact take_put_comm hne ((o.issue [statement]).count _) _

theorem promises_start (ht : t < o.promises.length) (q : Query α) (mode : Mode)
    (plan : Except QueryError Plan) :
    (o.start q mode plan).promises[t]? = o.promises[t]? := by
  obtain ⟨p, hp, -⟩ := o.exists_promises_start q mode plan
  rw [hp, List.getElem?_append_left ht]

theorem promises_wait {task : Nat} (hne : task ≠ t) :
    (o.wait task).2.promises[t]? = o.promises[t]? := by
  rcases o.promises_wait_cases task with h | h
  · rw [h]
  · rw [h, List.getElem?_set_ne hne]

theorem promises_turn {task : Nat} (hne : task ≠ t) :
    (o.turn task).promises[t]? = o.promises[t]? := by
  unfold turn
  split
  · exact List.getElem?_set_ne hne
  · exact List.getElem?_set_ne hne
  · rfl

theorem turn_of_result {result : Except QueryError (Answer α)}
    (h : o.promises[t]? = some (.result result)) : o.turn t = o := by
  simp only [turn, h]

theorem turn_take (ht : t < o.promises.length) : (o.take t).turn t = o.take t := by
  have hp : (o.take t).promises[t]? = some .taken := List.getElem?_set_self ht
  simp only [turn, hp]

theorem take_serve (ht : t < o.promises.length) (q : Query α) (mode : Mode)
    (plan : Except QueryError Plan) :
    (o.take t).serve q mode plan =
      ((o.serve q mode plan).1, (o.serve q mode plan).2.take t) := by
  have hlength : (o.take t).promises.length = o.promises.length := List.length_set
  unfold serve
  split_ifs
  · exact take_call o t q plan
  · rw [take_start ht, hlength]
    exact take_wait (by omega)

theorem promises_serve (ht : t < o.promises.length) (q : Query α) (mode : Mode)
    (plan : Except QueryError Plan) :
    (o.serve q mode plan).2.promises[t]? = o.promises[t]? := by
  unfold serve
  split_ifs
  · rw [promises_call]
  · rw [promises_wait (by omega), promises_start ht]

end Outlook

/-! ## Waiting early and late -/

namespace Client

/-- The clients differ only in that the result of a task has been handed over in the second
    one. -/
structure Ahead (t : Nat) (result : Except QueryError (Answer α)) (late early : Client σ α) :
    Prop where
  alike : late.Alike early
  outlook : early.engine.outlook = late.engine.outlook.take t
  promised : late.engine.outlook.promises[t]? = some (.result result)

variable [Backend σ] {t : Nat} {result : Except QueryError (Answer α)} {late early : Client σ α}

theorem Ahead.of_promised (h : late.engine.outlook.promises[t]? = some (.result result)) :
    (late.wait t).1 = result ∧ Ahead t result late (late.wait t).2 := by
  obtain ⟨hresult, houtlook⟩ := late.engine.outlook_wait t
  have hwait : late.engine.outlook.wait t = (result, late.engine.outlook.take t) := by
    rw [Outlook.wait, h]
  rw [hwait] at hresult houtlook
  exact ⟨hresult, ⟨rfl, rfl, rfl⟩, houtlook, h⟩

/-- A command that does not wait for the task does the same to both. -/
theorem Ahead.step (h : Ahead t result late early) {command : Command σ α}
    (hne : command ≠ .wait t) : Ahead t result (late.step command).2 (early.step command).2 := by
  have hlt : t < late.engine.outlook.promises.length := by
    obtain ⟨hlt, -⟩ := List.getElem?_eq_some_iff.mp h.promised
    exact hlt
  have hlate : (late.step command).2.engine.outlook = (late.foresee command).2 :=
    congrArg Prod.snd (late.step_outlook command)
  have hearly : (early.step command).2.engine.outlook = (early.foresee command).2 :=
    congrArg Prod.snd (early.step_outlook command)
  have hboth : (early.foresee command).2 = (late.foresee command).2.take t ∧
      (late.foresee command).2.promises[t]? = late.engine.outlook.promises[t]? := by
    cases command with
    | setClock now => exact ⟨h.outlook, rfl⟩
    | readState query => exact ⟨h.outlook, rfl⟩
    | readPlan query => exact ⟨h.outlook, rfl⟩
    | openBinder query => exact ⟨h.outlook, rfl⟩
    | adjust k change => exact ⟨h.outlook, rfl⟩
    | takeLog => exact ⟨h.outlook, rfl⟩
    | alterStore change =>
      refine ⟨?_, rfl⟩
      show { early.engine.outlook with store := change early.engine.outlook.store } = _
      rw [h.outlook]
      rfl
    | wait task =>
      have htask : task ≠ t := fun heq => hne (congrArg Command.wait heq)
      refine ⟨?_, Outlook.promises_wait htask⟩
      show (early.engine.outlook.wait task).2 = _
      rw [h.outlook, Outlook.take_wait htask]
      rfl
    | turn task =>
      show early.engine.outlook.turn task = (late.engine.outlook.turn task).take t ∧
        (late.engine.outlook.turn task).promises[t]? = _
      rw [h.outlook]
      by_cases heq : task = t
      · rw [heq, Outlook.turn_take hlt, Outlook.turn_of_result h.promised]
        exact ⟨rfl, rfl⟩
      · exact ⟨Outlook.take_turn heq, Outlook.promises_turn heq⟩
    | execute k mode =>
      simp only [foresee, h.outlook, h.alike.binders, h.alike.planned]
      cases late.binders[k]? with
      | none => exact ⟨rfl, rfl⟩
      | some b =>
        refine ⟨?_, Outlook.promises_serve hlt b.query mode _⟩
        simp only [Outlook.take_serve hlt]
        rfl
    | start k mode =>
      simp only [foresee, h.outlook, h.alike.binders, h.alike.planned]
      cases late.binders[k]? with
      | none => exact ⟨rfl, rfl⟩
      | some b =>
        exact ⟨Outlook.take_start hlt b.query mode _, Outlook.promises_start hlt b.query mode _⟩
  refine ⟨h.alike.step command, ?_, ?_⟩
  · exact hearly.trans (hboth.1.trans (congrArg (·.take t) hlate.symm))
  · rw [hlate, hboth.2, h.promised]

/-- A client that is ahead stays so, whatever the commands, if none waits for the task. -/
theorem Ahead.run (h : Ahead t result late early) {commands : List (Command σ α)}
    (hne : .wait t ∉ commands) : Ahead t result (late.run commands).2 (early.run commands).2 := by
  induction commands generalizing late early with
  | nil => exact h
  | cons command rest ih =>
    rw [List.mem_cons, not_or] at hne
    exact ih (h.step (Ne.symm hne.1)) hne.2

theorem Ahead.wait (h : Ahead t result late early) :
    (late.wait t).1 = result ∧ (late.wait t).2.engine.outlook = early.engine.outlook ∧
      early.Alike (late.wait t).2 := by
  obtain ⟨hresult, hwaited⟩ := Ahead.of_promised h.promised
  exact ⟨hresult, hwaited.outlook.trans h.outlook.symm, h.alike.symm.trans hwaited.alike⟩

/-- A result that is promised is handed over whether it is waited for at once or after other
    commands, and what these and further ones come to is the same. -/
theorem run_early_late {c : Client σ α}
    (h : c.engine.outlook.promises[t]? = some (.result result)) {later : List (Command σ α)}
    (hlater : .wait t ∉ later) (rest : List (Command σ α)) :
    (c.run (.wait t :: (later ++ rest))).1[0]? = some (.result result) ∧
      (c.run (later ++ .wait t :: rest)).1[later.length]? = some (.result result) ∧
      (c.run (later ++ .wait t :: rest)).2.engine.outlook =
        (c.run (.wait t :: (later ++ rest))).2.engine.outlook := by
  -- the client that waits at once is ahead of the other one until that waits, too
  obtain ⟨hfirst, hahead⟩ := Ahead.of_promised h
  obtain ⟨hresult, houtlook, halike⟩ := (hahead.run hlater).wait
  obtain ⟨hlast, -⟩ := run_outlook halike houtlook rest
  rw [run_cons, run_append, run_append, run_cons]
  refine ⟨congrArg (fun r => some (Reply.result r)) hfirst, ?_, hlast⟩
  show ((c.run later).1 ++ _)[later.length]? = _
  rw [List.getElem?_append_right (c.length_run later).le, c.length_run, Nat.sub_self]
  exact congrArg (fun r => some (Reply.result r)) hresult

end Client

/-! ## Latencies -/

/-- What a gathering comes to is a matter of how its statements turned out, not of when. -/
theorem Gathering.settle_congr {g h : Gathering α} (hmerging : g.merging = h.merging)
    (hquery : g.query = h.query) (hmapper : g.mapper = h.mapper)
    (houtcomes : g.outcomes = h.outcomes) : g.settle = h.settle := by
  simp only [settle, hmerging, hquery, hmapper, houtcomes]

namespace MemoryStore

/-- The same tables, with latencies by their positions. -/
def withLatencies (s : MemoryStore) (latency : Nat → Nat) : MemoryStore :=
  ⟨s.tables.mapIdx fun i table => { table with latency := latency i }⟩

/-- Latencies change no answer but for the time that it takes. -/
theorem answer_withLatencies (statement : BoundStatement) (s : MemoryStore)
    (latency : Nat → Nat) :
    (answer statement (s.withLatencies latency)).1.outcome = (answer statement s).1.outcome ∧
      (answer statement (s.withLatencies latency)).2 =
        (answer statement s).2.withLatencies latency := by
  have hget (i : Nat) : (s.withLatencies latency).tables[i]? =
      s.tables[i]?.map fun table => { table with latency := latency i } :=
    List.getElem?_mapIdx
  have hresponse (table? : Option EventTable) (i : Nat) :
      (responseOf statement (table?.map fun table => { table with latency := latency i })).outcome =
        (responseOf statement table?).outcome := by
    cases table? <;> rfl
  have hwrites (table? : Option EventTable) (i : Nat) :
      writes statement (table?.map fun table => { table with latency := latency i }) =
        writes statement table? := by
    cases table? <;> rfl
  have hinsert (i : Nat) (event : Event) : (s.withLatencies latency).insert i event =
      (s.insert i event).withLatencies latency := by
    refine congrArg MemoryStore.mk (List.ext_getElem? fun j => ?_)
    rw [List.getElem?_modify, hget, List.getElem?_mapIdx]
    show _ = ((s.tables.modify i _)[j]?).map _
    rw [List.getElem?_modify]
    cases s.tables[j]? with
    | none => rfl
    | some table =>
      by_cases hij : i = j
      · simp [hij]
      · simp [hij]
  rw [answer_eq, answer_eq, hget, hwrites]
  refine ⟨hresponse _ _, ?_⟩
  show (if _ then _ else _ : MemoryStore) = withLatencies (if _ then _ else _) latency
  split_ifs
  · exact hinsert _ _
  · rfl

theorem outcomes_trace_withLatencies (s : MemoryStore) (latency : Nat → Nat)
    (statements : List BoundStatement) :
    (trace (s.withLatencies latency) statements).map Exchange.outcome =
      (trace s statements).map Exchange.outcome := by
  induction statements generalizing s with
  | nil => rfl
  | cons statement rest ih =>
    obtain ⟨houtcome, hstore⟩ := answer_withLatencies statement s latency
    have hrest := ih (answer statement s).2
    rw [← hstore] at hrest
    exact congrArg₂ List.cons houtcome hrest

end MemoryStore

/-- What an execution comes to that is dispatched does not depend on latencies. -/
theorem Effect.on_withLatencies (s : MemoryStore) (latency : Nat → Nat) (q : Query α)
    (mode : Mode) (plan : Except QueryError Plan) :
    Effect.on (s.withLatencies latency) q mode plan = Effect.on s q mode plan := by
  cases plan with
  | error error => rfl
  | ok plan =>
    have hsettle : (Gathering.on (s.withLatencies latency) q mode plan).settle =
        (Gathering.on s q mode plan).settle := by
      refine Gathering.settle_congr rfl rfl rfl ?_
      rw [Gathering.outcomes_on, Gathering.outcomes_on,
        s.outcomes_trace_withLatencies latency plan.statements]
    simp only [Effect.on, hsettle]

/-! ## Executions -/

/-- The execution issues all its statements when it is started: it is for raw rows apart from
    the calling thread, for all objects or for the only one, or for the first one if all
    shards are asked at once or only one is. -/
def Binder.Dispatches (b : Binder α) : Mode → Prop
  | .sync => False
  | .async | .all | .atMostOne => True
  | .one => b.query.options.firstPresent = .parallel ∨ b.singleShard = true

theorem Binder.Dispatches.walks_eq_false {b : Binder α} {mode : Mode} (h : b.Dispatches mode)
    {state : Except QueryError RotationState} {plan : Plan} (hplan : b.plan mode state = .ok plan) :
    b.query.walks mode plan = false := by
  cases plan with
  | single shard statement => rfl
  | fanOut shards statements =>
    cases mode with
    | sync => cases h
    | async => rfl
    | all => rfl
    | atMostOne => rfl
    | one =>
      rcases h with h | h
      · simp [Query.walks, h]
      · rcases single_or_fanOut_of_plan hplan with ⟨-, shard, statement, heq⟩ | ⟨hspans, -⟩
        · cases heq
        · rw [h] at hspans
          cases hspans

namespace Client

/-- An execution that is dispatched comes to what its plan does on the store as it is then. -/
theorem start_outlook [Backend σ] (c : Client σ α) {k : Nat} {b : Binder α} {mode : Mode}
    (hb : c.binders[k]? = some b) (hmode : b.Dispatches mode) {effect : Effect α}
    (heffect : effect = .on c.engine.connection.store b.query mode (c.planned b mode)) :
    (c.step (.start k mode)).2.engine.outlook =
      { store := storeAfter c.engine.connection.store effect.statements
        exchanges := c.engine.connection.exchanges ++
          trace c.engine.connection.store effect.statements
        totals := c.engine.totals.plus effect.counters
        promises := c.engine.outlook.promises ++ [.result effect.result] } := by
  have hforesee : (c.foresee (.start k mode)).2 =
      c.engine.outlook.start b.query mode (c.planned b mode) := by
    simp only [foresee, hb]
  have hstep : (c.step (.start k mode)).2.engine.outlook = (c.foresee (.start k mode)).2 :=
    congrArg Prod.snd (c.step_outlook (.start k mode))
  rw [hstep, hforesee]
  exact c.engine.outlook.start_eq b.query mode (fun p hp => hmode.walks_eq_false hp) heffect

/-- The client with other latencies of the tables. -/
def withLatencies (c : Client MemoryStore α) (latency : Nat → Nat) : Client MemoryStore α :=
  let store := c.engine.connection.store.withLatencies latency
  { c with engine := { c.engine with connection := { c.engine.connection with store } } }

/-- An execution that is dispatched is fixed when it is started. Whatever the latencies of the
    tables, and whatever is done later, before its result is waited for, with whichever tasks
    having turns, that result is the one that it has if it is waited for at once; its statements
    have been issued, and are bound to be counted, from the start, and neither waiting nor a
    turn of its task adds anything. What is done later and afterwards comes to the same, too,
    if the other tasks have the same turns. -/
theorem fixed_when_started (c : Client MemoryStore α) {k : Nat} {b : Binder α} {mode : Mode}
    (hb : c.binders[k]? = some b) (hmode : b.Dispatches mode) :
    ∃ effect : Effect α, ∀ (latency : Nat → Nat) (later rest : List (Command MemoryStore α)),
      .wait c.engine.tasks.length ∉ later →
      let c := c.withLatencies latency
      let wait : Command MemoryStore α := .wait c.engine.tasks.length
      let turn : Command MemoryStore α := .turn c.engine.tasks.length
      let started := (c.step (.start k mode)).2
      let waiting := (started.run later).2
      let early := c.run (.start k mode :: wait :: (later ++ rest))
      let late := c.run (.start k mode :: (later ++ wait :: rest))
      -- the result
      early.1[1]? = some (.result effect.result) ∧
      late.1[later.length + 1]? = some (.result effect.result) ∧
      -- the statements
      started.engine.connection.sent = c.engine.connection.sent ++ effect.statements ∧
      (waiting.step wait).2.engine.connection.sent = waiting.engine.connection.sent ∧
      (waiting.step turn).2.engine.connection.sent = waiting.engine.connection.sent ∧
      late.2.engine.connection.sent = early.2.engine.connection.sent ∧
      -- the counters, those of outstanding gatherings included
      started.engine.totals = c.engine.totals.plus effect.counters ∧
      (waiting.step wait).2.engine.totals = waiting.engine.totals ∧
      (waiting.step turn).2.engine.totals = waiting.engine.totals ∧
      late.2.engine.totals = early.2.engine.totals ∧
      -- and so the counters themselves, once nothing is outstanding
      ((∀ task ∈ early.2.engine.tasks ++ late.2.engine.tasks, task.isOutstanding = false) →
        late.2.engine.stats = early.2.engine.stats) := by
  let effect : Effect α := .on c.engine.connection.store b.query mode (c.planned b mode)
  refine ⟨effect, ?_⟩
  intro latency later rest hlater c' wait turn started waiting early late
  have heffect : effect =
      .on c'.engine.connection.store b.query mode (c'.planned b mode) :=
    (Effect.on_withLatencies _ latency _ _ _).symm
  have hstart := c'.start_outlook hb hmode heffect
  have hpromised : started.engine.outlook.promises[c'.engine.tasks.length]? =
      some (.result effect.result) := by
    have hlength : c'.engine.outlook.promises.length = c'.engine.tasks.length := List.length_map _
    rw [hstart, ← hlength]
    exact List.getElem?_concat_length
  obtain ⟨hearly, hlate, houtlook⟩ := run_early_late hpromised hlater rest
  have hwaiting := ((Ahead.of_promised hpromised).2.run hlater).promised
  obtain ⟨-, hahead⟩ := Ahead.of_promised hwaiting
  have hturn : (waiting.step turn).2.engine.outlook = waiting.engine.outlook :=
    (waiting.engine.outlook_turn _).trans (Outlook.turn_of_result hwaiting)
  have hsent : late.2.engine.connection.exchanges = early.2.engine.connection.exchanges :=
    congrArg Outlook.exchanges houtlook
  have htotals : late.2.engine.totals = early.2.engine.totals := congrArg Outlook.totals houtlook
  refine ⟨hearly, hlate, ?_, ?_, ?_, ?_, congrArg Outlook.totals hstart, ?_,
    congrArg Outlook.totals hturn, htotals, ?_⟩
  · show started.engine.outlook.exchanges.map Exchange.statement = _
    rw [hstart, List.map_append, map_statement_trace]
    rfl
  · exact congrArg (fun o => o.exchanges.map Exchange.statement) hahead.outlook
  · exact congrArg (fun o => o.exchanges.map Exchange.statement) hturn
  · exact congrArg (List.map Exchange.statement) hsent
  · exact congrArg Outlook.totals hahead.outlook
  · intro hsettled
    rw [← Engine.totals_eq_stats fun task h => hsettled task (List.mem_append_left _ h),
      ← Engine.totals_eq_stats fun task h => hsettled task (List.mem_append_right _ h), htotals]

/-- A client in the third hour, with a read that has no key yet. The first hour has an event. -/
def firstHour : Client MemoryStore Event :=
  (Client.fresh ⟨[{ events := [⟨"a", "1"⟩] }, {}, {}]⟩ (.ofMillis 10000000)).openBinder
    Ledger.keyRead

/-- A walk is started, the first hour is written to and lost, and the walk goes through the
    hours until it fails there. -/
def losing : List (Command MemoryStore Event) :=
  [.start 0 .one, .turn 1, .alterStore (·.insert 0 ⟨"b", "2"⟩), .turn 1,
    .alterStore (·.fail 0 "table lost"), .turn 1, .wait 1]

/-- The read that is started before finds the event, and only that, whatever the latencies. -/
theorem fixed_when_started_losing :
    firstHour.binders[0]? = some (.fresh 0 Ledger.keyRead) ∧
      (Binder.fresh 0 Ledger.keyRead).Dispatches .all ∧ .wait 0 ∉ losing ∧
      ((firstHour.withLatencies fun i => 50 * i).run
          (.start 0 .all :: (losing ++ [.wait 0]))).1[8]? =
        some (.result (.ok (.items [⟨"a", "1"⟩]))) ∧
      ((firstHour.withLatencies fun i => 50 * i).run
          (.start 0 .all :: (losing ++ [.wait 0]))).1[7]? =
        some (.result (.error (.backend (.reported "table lost")))) := by
  have hlosing : .wait 0 ∉ losing := by simp [losing]
  have hbinder : firstHour.binders[0]? = some (.fresh 0 Ledger.keyRead) := rfl
  have hmode : (Binder.fresh 0 Ledger.keyRead).Dispatches .all := trivial
  obtain ⟨effect, heffect⟩ := fixed_when_started firstHour hbinder hmode
  obtain ⟨hearly, -⟩ := heffect (fun _ => 0) [] [] (by simp)
  obtain ⟨-, hlate, -⟩ := heffect (fun i => 50 * i) losing [] hlosing
  have hresult : effect.result = .ok (.items [⟨"a", "1"⟩]) := by
    have hfound : ((firstHour.withLatencies fun _ => 0).run [.start 0 .all, .wait 0]).1[1]? =
        some (.result (.ok (.items [⟨"a", "1"⟩]))) := rfl
    exact (Reply.result.inj (Option.some.inj (hfound.symm.trans hearly))).symm
  rw [hresult] at hlate
  exact ⟨hbinder, hmode, hlosing, hlate, rfl⟩

end Client

end RotatedShards
