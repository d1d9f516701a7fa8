import RotatedShards.Proofs.Execution.Commands
import RotatedShards.Proofs.Execution.Settlement

/-!
# Foresight

What commands do to the outlook of a client. It follows from the outlook itself, the binders
and the clocks, and so does the result that a command hands over: when tasks are settled,
and what has been logged, does not matter.

Results:
* `Client.step_outlook`: what a command does to the outlook, and which result it hands over.
* `Client.Alike.step`: clients with the same binders and clocks stay so.
-/

namespace RotatedShards

variable {σ α : Type}

/-! ## Commands -/

/-- The result that a reply hands over. -/
def Client.Reply.result? : Client.Reply α → Option (Except QueryError (Answer α))
  | .result r => some r
  | _ => none

namespace Client

/-! ## Binders and clocks -/

/-- Clients with the same binders and clocks. -/
structure Alike (c c' : Client σ α) : Prop where
  binders : c'.binders = c.binders
  clock : c'.clock = c.clock
  systemClock : c'.systemClock = c.systemClock

theorem plan_clocks (c : Client σ α) (b : Binder α) (mode : Mode) :
    (c.plan b mode).2.clock = c.clock ∧ (c.plan b mode).2.systemClock = c.systemClock := by
  unfold plan readState
  split_ifs <;> exact ⟨rfl, rfl⟩

namespace Alike

variable {c c' c'' : Client σ α}

theorem symm (h : c.Alike c') : c'.Alike c :=
  ⟨h.binders.symm, h.clock.symm, h.systemClock.symm⟩

theorem trans (h : c.Alike c') (h' : c'.Alike c'') : c.Alike c'' :=
  ⟨h'.binders.trans h.binders, h'.clock.trans h.clock, h'.systemClock.trans h.systemClock⟩

theorem readState (h : c.Alike c') (q : Query α) : (c.readState q).2.Alike (c'.readState q).2 := by
  unfold Client.readState
  split_ifs
  · exact ⟨h.binders, h.clock, h.systemClock⟩
  · exact h

theorem adjust (h : c.Alike c') (b : Binder α) (change : Adjustment) :
    (c.adjust b change).2.Alike (c'.adjust b change).2 := by
  unfold Client.adjust
  cases b.adjust change with
  | ok b' => exact ⟨congrArg (·.set b.id b') h.binders, h.clock, h.systemClock⟩
  | error error => exact h

theorem plan (h : c.Alike c') (b : Binder α) (mode : Mode) :
    (c.plan b mode).2.Alike (c'.plan b mode).2 := by
  obtain ⟨hclock, hsystem⟩ := c.plan_clocks b mode
  obtain ⟨hclock', hsystem'⟩ := c'.plan_clocks b mode
  refine ⟨?_, ?_, ?_⟩
  · rw [plan_binders, plan_binders, h.binders]
  · rw [hclock, hclock', h.clock]
  · rw [hsystem, hsystem', h.systemClock]

end Alike

/-! ## Steps -/

/-- The plan of an execution, or why there is none. -/
def planned (c : Client σ α) (b : Binder α) (mode : Mode) : Except QueryError Plan :=
  b.plan mode (b.query.source.stateAt (c.now b.query))

variable [Backend σ]

omit [Backend σ] in
theorem Alike.planned {c c' : Client σ α} (h : c.Alike c') (b : Binder α) (mode : Mode) :
    c'.planned b mode = c.planned b mode := by
  simp only [Client.planned, now, h.clock, h.systemClock]

theorem execute_of_planned (c : Client σ α) {b : Binder α} {mode : Mode}
    {plan : Except QueryError Plan} (h : c.planned b mode = plan) :
    (c.execute b mode).1 = (c.engine.serve b.query mode plan).1 ∧
      (c.execute b mode).2.engine = (c.engine.serve b.query mode plan).2 :=
  h ▸ c.execute_eq_serve b mode

theorem start_of_planned (c : Client σ α) {b : Binder α} {mode : Mode}
    {plan : Except QueryError Plan} (h : c.planned b mode = plan) :
    (c.start b mode).engine = c.engine.start b.query mode plan :=
  h ▸ c.start_engine b mode

/-- Commands do to binders and clocks the same whatever the engine. -/
theorem Alike.step {c c' : Client σ α} (h : c.Alike c') (command : Command σ α) :
    (c.step command).2.Alike (c'.step command).2 := by
  cases command with
  | alterStore change => exact ⟨h.binders, h.clock, h.systemClock⟩
  | setClock now => exact ⟨h.binders, rfl, h.systemClock⟩
  | readState query => exact h.readState query
  | readPlan query => exact h.readState query
  | openBinder query =>
    refine ⟨?_, h.clock, h.systemClock⟩
    show c'.binders ++ [.fresh c'.binders.length query] = _
    rw [h.binders]
    rfl
  | wait task => exact ⟨h.binders, h.clock, h.systemClock⟩
  | turn task => exact ⟨h.binders, h.clock, h.systemClock⟩
  | takeLog => exact ⟨h.binders, h.clock, h.systemClock⟩
  | adjust k change =>
    simp only [Client.step, h.binders]
    cases c.binders[k]? with
    | none => exact h
    | some b => exact h.adjust b change
  | execute k mode =>
    simp only [Client.step, h.binders]
    cases c.binders[k]? with
    | none => exact h
    | some b =>
      -- beyond its plan an execution changes the engine only
      have hrest (c : Client σ α) : (c.plan b mode).2.Alike (c.execute b mode).2 := by
        unfold execute
        split_ifs <;> exact ⟨rfl, rfl, rfl⟩
      exact ((hrest c).symm.trans (h.plan b mode)).trans (hrest c')
  | start k mode =>
    simp only [Client.step, h.binders]
    cases c.binders[k]? with
    | none => exact h
    | some b =>
      have hplan := h.plan b mode
      exact ⟨hplan.binders, hplan.clock, hplan.systemClock⟩

/-- The result that a command is going to hand over, and the outlook after it. -/
def foresee (c : Client σ α) (command : Command σ α) :
    Option (Except QueryError (Answer α)) × Outlook σ α :=
  let o := c.engine.outlook
  match command with
  | .alterStore change => (none, { o with store := change o.store })
  | .execute k mode =>
    match c.binders[k]? with
    | some b => (o.serve b.query mode (c.planned b mode)).map some id
    | none => (none, o)
  | .start k mode =>
    match c.binders[k]? with
    | some b => (none, o.start b.query mode (c.planned b mode))
    | none => (none, o)
  | .wait task => (o.wait task).map some id
  | .turn task => (none, o.turn task)
  | _ => (none, o)

/-- What a command hands over, and what it leaves, is a matter of the outlook before it. -/
theorem step_outlook (c : Client σ α) (command : Command σ α) :
    ((c.step command).1.result?, (c.step command).2.engine.outlook) = c.foresee command := by
  cases command with
  | alterStore change => rfl
  | setClock now => rfl
  | openBinder query => rfl
  | takeLog => rfl
  | readState query =>
    show (none, (c.readState query).2.engine.outlook) = _
    rw [(c.readState_frame query).2]
    rfl
  | readPlan query =>
    show (none, (c.readState query).2.engine.outlook) = _
    rw [(c.readState_frame query).2]
    rfl
  | adjust k change =>
    simp only [step, foresee]
    cases c.binders[k]? with
    | none => rfl
    | some b =>
      show (none, (c.adjust b change).2.engine.outlook) = _
      rw [adjust_engine]
  | execute k mode =>
    simp only [step, foresee]
    cases c.binders[k]? with
    | none => rfl
    | some b =>
      obtain ⟨hresult, hengine⟩ := c.execute_eq_serve b mode
      obtain ⟨hserved, houtlook⟩ := c.engine.outlook_serve b.query mode (c.planned b mode)
      show (some (c.execute b mode).1, (c.execute b mode).2.engine.outlook) = _
      rw [hresult, hengine, ← planned, hserved, houtlook]
      rfl
  | start k mode =>
    simp only [step, foresee]
    cases c.binders[k]? with
    | none => rfl
    | some b =>
      show (none, (c.start b mode).engine.outlook) = _
      rw [start_engine, Engine.outlook_start]
      rfl
  | wait task =>
    obtain ⟨hresult, houtlook⟩ := c.engine.outlook_wait task
    show (some (c.engine.wait task).1, (c.engine.wait task).2.outlook) = _
    rw [hresult, houtlook]
    rfl
  | turn task => exact Prod.ext rfl (c.engine.outlook_turn task)

/-- An execution that is not a walk has the result of its gathering, and leaves the store as
    its statements do. -/
theorem execute_of_not_walks (c : Client σ α) {b : Binder α} {mode : Mode} {plan : Plan}
    (hplan : c.planned b mode = .ok plan) (hwalks : b.query.walks mode plan = false) :
    (c.execute b mode).1 =
        (Gathering.on c.engine.connection.store b.query mode plan).settle.result ∧
      (c.execute b mode).2.engine.connection.store =
        storeAfter c.engine.connection.store plan.statements := by
  obtain ⟨hresult, hengine⟩ := c.execute_of_planned hplan
  obtain ⟨hserved, houtlook⟩ := c.engine.outlook_serve b.query mode (.ok plan)
  obtain ⟨hsettled, hstore⟩ := c.engine.outlook.serve_of_not_walks hwalks
    (Binder.merges_or_single_of_plan hplan)
  constructor
  · rw [hresult, hserved, hsettled]
    rfl
  · show (c.execute b mode).2.engine.outlook.store = _
    rw [hengine, houtlook, hstore]
    rfl

/-- Where all its statements have rows, it results in what is made of these. -/
theorem execute_of_rows (c : Client σ α) {b : Binder α} {mode : Mode} {plan : Plan}
    (hplan : c.planned b mode = .ok plan) (hwalks : b.query.walks mode plan = false)
    {rows : List RawRows}
    (h : (trace c.engine.connection.store plan.statements).map Exchange.outcome =
      rows.map .rows) :
    (c.execute b mode).1 = (mode.merging plan).apply b.query.mapper b.query.text rows := by
  have houtcomes := (Gathering.outcomes_on c.engine.connection.store b.query mode plan).trans h
  rw [(c.execute_of_not_walks hplan hwalks).1, Gathering.settle_of_rows houtcomes]
  rfl

/-! ## Runs -/

theorem run_cons (c : Client σ α) (command : Command σ α) (rest : List (Command σ α)) :
    c.run (command :: rest) =
      ((c.step command).1 :: ((c.step command).2.run rest).1, ((c.step command).2.run rest).2) :=
  rfl

theorem run_append (c : Client σ α) (first rest : List (Command σ α)) :
    c.run (first ++ rest) =
      ((c.run first).1 ++ ((c.run first).2.run rest).1, ((c.run first).2.run rest).2) := by
  induction first generalizing c with
  | nil => rfl
  | cons command first ih =>
    rw [List.cons_append, run_cons, run_cons, ih]
    rfl

theorem length_run (c : Client σ α) (commands : List (Command σ α)) :
    (c.run commands).1.length = commands.length := by
  induction commands generalizing c with
  | nil => rfl
  | cons command rest ih => exact congrArg (· + 1) (ih _)

theorem run_outlook {c c' : Client σ α} (h : c.Alike c')
    (houtlook : c'.engine.outlook = c.engine.outlook) (commands : List (Command σ α)) :
    (c'.run commands).2.engine.outlook = (c.run commands).2.engine.outlook ∧
      (c'.run commands).1.map Reply.result? = (c.run commands).1.map Reply.result? := by
  induction commands generalizing c c' with
  | nil => exact ⟨houtlook, rfl⟩
  | cons command rest ih =>
    have hforesee : c'.foresee command = c.foresee command := by
      unfold foresee
      rw [houtlook, h.binders]
      simp only [h.planned]
    rw [← step_outlook, ← step_outlook, Prod.mk.injEq] at hforesee
    obtain ⟨hresult, hafter⟩ := hforesee
    obtain ⟨hlast, hresults⟩ := ih (h.step command) hafter
    rw [run_cons, run_cons, List.map_cons, List.map_cons, hresult, hresults]
    exact ⟨hlast, rfl⟩

end Client

end RotatedShards
