import RotatedShards.Proofs.Execution.Agreement
import RotatedShards.Proofs.Execution.Failures
import RotatedShards.Proofs.Execution.Foresight
import RotatedShards.Store.Memory

/-!
# Executions that are refused

An execution without a plan has no effect but that its binder is frozen. Planning comes
before everything else: the statements for all shards are made before the first one is
sent, so that one that cannot be made leaves nothing behind.

Results:
* `Binder.map_statements_plan`: a plan has a statement for each of its targets, or there is
  none.
* `Engine.Retains`, `Client.run_retains`: a refusal that is pending stays so until it is
  waited for.
* `Client.refused_without_effect`: what is left of an execution that is refused, and what
  has been made before anything is sent.
-/

namespace RotatedShards

variable {σ α : Type}

/-! ## Targets -/

namespace Binder

/-- The shards that an execution has to have a statement for, in the order in which they
    are asked. -/
def targets (b : Binder α) (mode : Mode) (state : Except QueryError RotationState) :
    Except QueryError (List ShardId) :=
  match b.route with
  | .shard shard => .ok [shard]
  | .current => state.map fun s => [s.current]
  | .window =>
    if mode.merges then state >>= b.query.resolve
    else .error (.unsupported (.spansShards b.query.text))

/-- The statements of a plan are made for all targets, one after the other, and the first
    one that cannot be made is why there is none. -/
theorem map_statements_plan (b : Binder α) (mode : Mode)
    (state : Except QueryError RotationState) :
    (b.plan mode state).map Plan.statements =
      b.targets mode state >>= (·.mapM b.materialize) := by
  have hsingle (shard : ShardId) : ((b.materialize shard).map (Plan.single shard)).map
      Plan.statements = [shard].mapM b.materialize := by
    rw [List.mapM_cons]
    cases b.materialize shard <;> rfl
  have hfan (shards : List ShardId) : ((shards.mapM b.materialize).map (Plan.fanOut shards)).map
      Plan.statements = shards.mapM b.materialize := by
    cases shards.mapM b.materialize <;> rfl
  unfold plan targets
  cases b.route with
  | shard shard => exact hsingle shard
  | current =>
    cases state with
    | error e => rfl
    | ok s => exact hsingle s.current
  | window =>
    simp only
    split_ifs
    · cases state with
      | error e => rfl
      | ok s =>
        show Except.map _ (b.query.resolve s >>= _) = b.query.resolve s >>= _
        cases b.query.resolve s with
        | error e => rfl
        | ok shards => exact hfan shards
    · rfl

/-- A plan has a statement for each of its targets. -/
theorem exists_targets_of_plan {b : Binder α} {mode : Mode}
    {state : Except QueryError RotationState} {plan : Plan} (h : b.plan mode state = .ok plan) :
    ∃ shards, b.targets mode state = .ok shards ∧
      List.Forall₂ (fun shard statement => b.materialize shard = .ok statement) shards
        plan.statements := by
  have hstatements := b.map_statements_plan mode state
  rw [h] at hstatements
  obtain ⟨shards, htargets, hmade⟩ := bind_eq_ok_iff.mp hstatements.symm
  exact ⟨shards, htargets, mapM_eq_ok_iff.mp hmade⟩

end Binder

/-! ## Refusals that are pending -/

namespace Engine

/-- If the task is a pending refusal in the first engine, it is the same in the second. -/
def Retains (t : Nat) (e e' : Engine σ α) : Prop :=
  ∀ error, e.tasks[t]? = some (.rejected error) → e'.tasks[t]? = some (.rejected error)

namespace Retains

variable {t : Nat} {e e' e'' : Engine σ α}

theorem of_eq (h : e'.tasks = e.tasks) : Retains t e e' := fun _ ht => h ▸ ht

theorem trans (h : Retains t e e') (h' : Retains t e' e'') : Retains t e e'' :=
  fun error ht => h' error (h error ht)

theorem of_map {f : Task α → Task α} (htasks : e'.tasks = e.tasks.map f)
    (hf : ∀ error, f (.rejected error) = .rejected error) : Retains t e e' := by
  intro error ht
  rw [htasks, List.getElem?_map, ht, Option.map_some, hf]

theorem put {task : Nat} (hne : task ≠ t) (e : Engine σ α) (new : Task α) :
    Retains t e (e.put task new) := by
  intro error ht
  rw [Engine.put, List.getElem?_set_ne hne, ht]

theorem enqueue (e : Engine σ α) (task : Task α) : Retains t e (e.enqueue task) := by
  intro error ht
  rw [Engine.enqueue, List.getElem?_append_left (List.getElem?_eq_some_iff.mp ht).1, ht]

variable [Backend σ]

theorem turn (e : Engine σ α) (task : Nat) : Retains t e (e.turn task) := by
  refine turn_induct (motive := Retains t e) task (of_eq rfl) (fun e' h => ?_)
    (fun e' time h => ?_) fun e' h error ht => ?_
  · exact h.trans (of_map rfl fun _ => rfl)
  · exact h.trans (of_map rfl fun _ => rfl)
  · have hkept := h error ht
    by_cases heq : task = t
    · simp only [proceed, heq, hkept]
    · unfold proceed
      split
      · exact (List.getElem?_set_ne heq).trans hkept
      · exact (List.getElem?_set_ne heq).trans hkept
      · exact hkept

theorem start (e : Engine σ α) (q : Query α) (mode : Mode) (plan : Except QueryError Plan) :
    Retains t e (e.start q mode plan) := by
  cases plan with
  | error error => exact enqueue e _
  | ok p =>
    have haccept : Retains t e (e.accept q.text p) := of_eq rfl
    cases hwalks : q.walks mode p with
    | true =>
      rw [start_of_walks e q mode p hwalks]
      exact haccept.trans (enqueue _ _)
    | false =>
      rw [start_of_not_walks e q mode p hwalks]
      have hsend : Retains t e ((e.accept q.text p).sendAll p.statements).2 :=
        of_eq ((e.accept q.text p).sendAll_spec p.statements).2.2
      exact hsend.trans (enqueue _ _)

theorem call (e : Engine σ α) (q : Query α) (plan : Except QueryError Plan) :
    Retains t e (e.call q plan).2 := by
  cases plan with
  | error error => exact of_eq rfl
  | ok p =>
    simp only [Engine.call]
    cases p.statements with
    | nil => exact of_eq rfl
    | cons statement rest =>
      simp only
      split <;> exact of_eq rfl

theorem wait {task : Nat} (hne : task ≠ t) (e : Engine σ α) : Retains t e (e.wait task).2 :=
  wait_induct (motive := Retains t e) task (of_eq rfl) (fun e' h => h.trans (turn e' task))
    fun e' h => h.trans (put hne e' .taken)

theorem serve (e : Engine σ α) (q : Query α) (mode : Mode) (plan : Except QueryError Plan) :
    Retains t e (e.serve q mode plan).2 := by
  intro error ht
  -- the task of the execution itself is another one
  have hne : e.tasks.length ≠ t := by
    have := (List.getElem?_eq_some_iff.mp ht).1
    omega
  unfold Engine.serve
  split_ifs
  · exact call e q plan error ht
  · exact wait hne _ error (start e q mode plan error ht)

end Retains

end Engine

namespace Client

variable [Backend σ] {t : Nat}

/-- A refusal is pending until it is waited for. -/
theorem step_retains (c : Client σ α) {command : Command σ α} (hne : command ≠ .wait t) :
    Engine.Retains t c.engine (c.step command).2.engine := by
  rw [step_engine]
  cases command with
  | execute k mode =>
    dsimp only
    split
    · exact .serve c.engine _ mode _
    · exact .of_eq rfl
  | start k mode =>
    dsimp only
    split
    · exact .start c.engine _ mode _
    · exact .of_eq rfl
  | wait task => exact .wait (fun h => hne (congrArg Command.wait h)) c.engine
  | turn task => exact .turn c.engine task
  | _ => exact .of_eq rfl

theorem run_retains (c : Client σ α) {commands : List (Command σ α)}
    (hne : .wait t ∉ commands) : Engine.Retains t c.engine (c.run commands).2.engine := by
  induction commands generalizing c with
  | nil => exact .of_eq rfl
  | cons command rest ih =>
    rw [List.mem_cons, not_or] at hne
    exact (c.step_retains (Ne.symm hne.1)).trans (ih _ hne.2)

end Client

/-! ## What is sent -/

namespace Engine

variable [Backend σ]

/-- An execution sends a first part of the statements of its plan, and all of them unless
    it is a walk. -/
theorem sent_serve (e : Engine σ α) (q : Query α) {mode : Mode} {plan : Plan}
    (hm : mode.merges = true ∨ ∃ shard statement, plan = .single shard statement) :
    ∃ added, (e.serve q mode (.ok plan)).2.connection.sent = e.connection.sent ++ added ∧
      added <+: plan.statements ∧ (q.walks mode plan = false → added = plan.statements) := by
  have hadded {xs : List Exchange}
      (hxs : (e.serve q mode (.ok plan)).2.connection.exchanges = e.connection.exchanges ++ xs) :
      (e.serve q mode (.ok plan)).2.connection.sent =
        e.connection.sent ++ xs.map Exchange.statement := by
    rw [Connection.sent, hxs, List.map_append]
    rfl
  have hall := map_statement_trace e.connection.store plan.statements
  cases plan with
  | single shard statement =>
    refine ⟨_, hadded (e.serve_single q mode shard statement).2, ?_, fun _ => hall⟩
    exact hall ▸ List.prefix_rfl
  | fanOut shards statements =>
    have hmerges : mode.merges = true := by
      rcases hm with hm | ⟨_, _, hplan⟩
      · exact hm
      · cases hplan
    refine ⟨_, hadded (e.serve_fanOut q hmerges shards statements).2, ?_, fun hwalks => ?_⟩
    · split_ifs
      · exact hall ▸ (Exchange.untilDecided_isPrefix q.mapper _).map Exchange.statement
      · exact hall ▸ List.prefix_rfl
    · rw [hwalks]
      exact hall

/-- An execution that is started sends all statements of its plan, or leaves a walk that has
    all of them. -/
theorem sent_start (e : Engine σ α) (q : Query α) (mode : Mode) (plan : Plan) :
    (q.walks mode plan = false ∧
        (e.start q mode (.ok plan)).connection.sent = e.connection.sent ++ plan.statements) ∨
      (q.walks mode plan = true ∧
        (e.start q mode (.ok plan)).connection.sent = e.connection.sent ∧
        (e.start q mode (.ok plan)).tasks[e.tasks.length]? =
          some (.walking q.mapper plan.statements)) := by
  cases hwalks : q.walks mode plan with
  | true =>
    rw [start_of_walks e q mode plan hwalks]
    exact Or.inr ⟨rfl, rfl, List.getElem?_concat_length⟩
  | false =>
    rw [start_of_not_walks e q mode plan hwalks]
    refine Or.inl ⟨rfl, ?_⟩
    show List.map _ ((e.accept q.text plan).sendAll plan.statements).2.connection.exchanges = _
    rw [((e.accept q.text plan).sendAll_spec plan.statements).2.1, List.map_append,
      map_statement_trace]
    rfl

end Engine

/-! ## Executions -/

namespace Client

variable [Backend σ]

/-- The client has refused to execute a binder. Nothing has changed but that the binder
    counts as executed, with its bindings as they were, and the tasks. -/
structure Refused (c : Client σ α) (b : Binder α) (c' : Client σ α) : Prop where
  engine : c.engine.Untouched c'.engine
  binders : c'.binders = c.binders.set b.id { b with executed := true }

theorem refused_execute (c : Client σ α) {b : Binder α} {mode : Mode} {e : QueryError}
    (hplan : c.planned b mode = .error e) :
    (c.execute b mode).1 = .error e ∧ c.Refused b (c.execute b mode).2 := by
  obtain ⟨hresult, hengine⟩ := c.execute_of_planned hplan
  obtain ⟨herror, huntouched⟩ := c.engine.serve_rejected b.query mode e
  exact ⟨hresult.trans herror, hengine ▸ huntouched, c.execute_binders b mode⟩

theorem refused_start (c : Client σ α) {b : Binder α} {mode : Mode} {e : QueryError}
    (hplan : c.planned b mode = .error e) :
    (c.start b mode).engine.tasks[c.engine.tasks.length]? = some (.rejected e) ∧
      c.Refused b (c.start b mode) := by
  have hengine : (c.start b mode).engine = c.engine.enqueue (.rejected e) :=
    c.start_of_planned hplan
  refine ⟨?_, ?_, c.plan_binders b mode⟩
  · rw [hengine]
    exact List.getElem?_concat_length
  · rw [hengine]
    exact ⟨rfl, rfl, rfl, rfl⟩

/-- A refusal that is pending is handed over without any effect. -/
theorem wait_of_rejected (c : Client σ α) {t : Nat} {e : QueryError}
    (ht : c.engine.tasks[t]? = some (.rejected e)) :
    (c.step (.wait t)).1 = .result (.error e) ∧
      c.engine.Untouched (c.step (.wait t)).2.engine := by
  have hwait := Engine.wait_of_rejected ht
  constructor
  · show Reply.result (c.engine.wait t).1 = _
    rw [hwait]
  · show c.engine.Untouched (c.engine.wait t).2
    rw [hwait]
    exact ⟨rfl, rfl, rfl, rfl⟩

/-- An execution that is refused has no effect, whatever the query, the bindings, the mode,
    the answer of the source and the state of the store. At once or apart from the caller,
    nothing is sent and nothing is counted; the binder is frozen with its bindings; the
    pending result is there from the start, and whenever it is waited for, the same error
    comes out of it and nothing else happens. And nothing is sent in part: an execution
    that is not refused has made the statements for all its targets, and sends none but
    these. -/
theorem refused_without_effect (c : Client σ α) {b : Binder α}
    (hb : c.binders[b.id]? = some b) (mode : Mode) :
    let executed := c.step (.execute b.id mode)
    let started := c.step (.start b.id mode)
    let task := c.engine.tasks.length
    let sent (c : Client σ α) := c.engine.connection.sent
    (∀ e, c.planned b mode = .error e →
      executed.1 = .result (.error e) ∧ c.Refused b executed.2 ∧
      started.1 = .started task true ∧ c.Refused b started.2 ∧
      ∀ later, .wait task ∉ later →
        let waiting := (started.2.run later).2
        (waiting.step (.wait task)).1 = .result (.error e) ∧
          waiting.engine.Untouched (waiting.step (.wait task)).2.engine) ∧
    ∀ plan, c.planned b mode = .ok plan →
      (∃ shards, b.targets mode (b.query.source.stateAt (c.now b.query)) = .ok shards ∧
        List.Forall₂ (fun shard statement => b.materialize shard = .ok statement) shards
          plan.statements) ∧
      (∃ added, sent executed.2 = sent c ++ added ∧ added <+: plan.statements ∧
        (b.query.walks mode plan = false → added = plan.statements)) ∧
      (sent started.2 = sent c ++ plan.statements ∨
        sent started.2 = sent c ∧
          started.2.engine.tasks[task]? = some (.walking b.query.mapper plan.statements)) := by
  intro executed started task sent
  have hexecuted : executed = (.result (c.execute b mode).1, (c.execute b mode).2) := by
    simp only [executed, step, hb]
    rfl
  have hstarted : started = (.started task (((c.start b mode).engine.tasks[task]?.map
      Task.isRejected).getD false), c.start b mode) := by
    simp only [started, step, hb]
    rfl
  rw [hexecuted, hstarted]
  refine ⟨fun e hplan => ?_, fun plan hplan => ⟨Binder.exists_targets_of_plan hplan, ?_, ?_⟩⟩
  · obtain ⟨hresult, hrefused⟩ := c.refused_execute hplan
    obtain ⟨htask, hpending⟩ := c.refused_start hplan
    refine ⟨congrArg Reply.result hresult, hrefused, ?_, hpending, fun later hlater => ?_⟩
    · simp only [task, htask, Option.map_some, Option.getD_some, Task.isRejected]
    · exact wait_of_rejected _ (run_retains _ hlater e htask)
  · simp only [sent, (c.execute_of_planned hplan).2]
    exact c.engine.sent_serve b.query (Binder.merges_or_single_of_plan hplan)
  · simp only [sent, c.start_of_planned hplan]
    rcases c.engine.sent_start b.query mode plan with ⟨-, hsent⟩ | ⟨-, hsent, htask⟩
    · exact Or.inl hsent
    · exact Or.inr ⟨hsent, htask⟩

/-- A client late in the third hour, with a read of the current hour only. -/
def lateHour : Client MemoryStore Nat :=
  (fresh (.empty 3) (.ofMillis 10000000)).openBinder (Definition.latestHour.build.toOption.get rfl)

/-- There is nothing left for it to read, and that stays so though the binder is asked to
    take a pin before the result is waited for. -/
theorem refused_without_effect_lateHour :
    ∃ b, lateHour.binders[b.id]? = some b ∧
      lateHour.planned b .all = .error (.configuration .rangeNotPositive) ∧
      (lateHour.step (.execute 0 .all)).1 = .result (.error (.configuration .rangeNotPositive)) ∧
      (lateHour.step (.start 0 .all)).1 = .started 0 true ∧
      (((lateHour.step (.start 0 .all)).2.run [.adjust 0 (.pin .first)]).2.step (.wait 0)).1 =
        .result (.error (.configuration .rangeNotPositive)) := by
  obtain ⟨hrefused, -⟩ := refused_without_effect lateHour
    (b := .fresh 0 (Definition.latestHour.build.toOption.get rfl)) rfl .all
  obtain ⟨hexecuted, -, hstarted, -, hwaiting⟩ := hrefused (.configuration .rangeNotPositive) rfl
  obtain ⟨hwaited, -⟩ := hwaiting [.adjust 0 (.pin .first)] (by simp)
  exact ⟨.fresh 0 _, rfl, rfl, hexecuted, hstarted, hwaited⟩

end Client

end RotatedShards
