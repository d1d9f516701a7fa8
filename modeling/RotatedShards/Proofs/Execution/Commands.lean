import RotatedShards.Proofs.Execution.Growth
import RotatedShards.Proofs.Query.Planning

/-!
# Commands

What a command does to the binders of a client, and which statements it issues. A binder
that has been executed is frozen: no command changes it any more, and the statements that
it makes are the ones that it made before.

Results:
* `Binder.call_freeze`: a binder that has been executed stays as it is.
* `Binder.Makes.carries`: what the statements of a sound binder carry.
* `Client.step_binders`: what a command does to the binders.
* `Client.step_engine`, `Client.step_grows`: what a command does to the engine, and which
  statements it issues.
-/

namespace RotatedShards

variable {σ α : Type}

/-! ## Binders that have been executed -/

namespace Binder

theorem adjust_freeze (b : Binder α) (change : Adjustment) :
    b.freeze.adjust change = .error .alreadyExecuted := adjust_of_executed rfl change

/-- A binder that has been executed stays as it is, whatever calls are made on it. -/
theorem call_freeze (b : Binder α) (c : Call) : b.freeze.call c = b.freeze := by
  cases c with
  | adjust change => simp only [call, adjust_freeze]
  | execute mode => rfl

theorem id_call (b : Binder α) (c : Call) : (b.call c).id = b.id := by
  cases c with
  | execute mode => rfl
  | adjust change =>
    simp only [call]
    cases h : b.adjust change with
    | error e => rfl
    | ok b' => cases (adjust_eq_ok_iff.mp h).2 <;> rfl

/-- The binder makes the statement for some shard. -/
def Makes (b : Binder α) (statement : BoundStatement) : Prop :=
  ∃ shard, b.materialize shard = .ok statement

theorem makes_freeze {b : Binder α} {statement : BoundStatement} :
    b.freeze.Makes statement ↔ b.Makes statement := Iff.rfl

theorem sound_of_freeze {b : Binder α} (h : b.freeze.Sound) : b.Sound :=
  ⟨h.query_sound, h.length_values, h.pinned_addresses, h.pinned_eq_none⟩

/-- The statement carries what the binder holds, to a table of its query. -/
structure Carries (b : Binder α) (statement : BoundStatement) : Prop where
  values : statement.values = b.values
  consistency : statement.consistency = b.consistency
  serial : statement.serial = b.serial
  table : ∃ index prepared, index < b.query.numShards ∧ statement.shard.raw.toInt = index ∧
    b.query.statements[index]? = some prepared ∧ statement.text = prepared.text

theorem Makes.carries {b : Binder α} (hb : b.Sound) {statement : BoundStatement}
    (h : b.Makes statement) : b.Carries statement := by
  obtain ⟨shard, hs⟩ := h
  obtain ⟨index, prepared, -, hp, -, rfl⟩ := materialize_eq_ok_iff.mp hs
  have hlt : index < b.query.numShards := by
    rw [← hb.query_sound.length_statements]
    exact (List.getElem?_eq_some_iff.mp hp).1
  have hle := hb.query_sound.numShards_le
  exact ⟨rfl, rfl, rfl, index, prepared, hlt, ShardId.toInt_ofIndex (by omega), hp, rfl⟩

theorem makes_of_plan {b : Binder α} {mode : Mode} {state : Except QueryError RotationState}
    {plan : Plan} (h : b.plan mode state = .ok plan) : ∀ s ∈ plan.statements, b.Makes s := by
  cases planned_of_plan h with
  | shard _ hst => exact List.forall_mem_singleton.mpr ⟨_, hst⟩
  | current _ _ hst => exact List.forall_mem_singleton.mpr ⟨_, hst⟩
  | window _ _ _ _ hst =>
    intro statement hmem
    obtain ⟨shard, -, hshard⟩ := exists_of_mem_mapM hst hmem
    exact ⟨shard, hshard⟩

end Binder

/-! ## Commands -/

namespace Client

namespace Command

/-- The binder that a command executes. -/
def executed? : Command σ α → Option Nat
  | .execute binder _ => some binder
  | .start binder _ => some binder
  | _ => none

/-- The binder that a command is for, and the call that it makes on it. -/
def call? : Command σ α → Option (Nat × Binder.Call)
  | .adjust binder change => some (binder, .adjust change)
  | .execute binder mode => some (binder, .execute mode)
  | .start binder mode => some (binder, .execute mode)
  | _ => none

/-- The query that a command opens a binder of. -/
def opened? : Command σ α → Option (Query α)
  | .openBinder query => some query
  | _ => none

/-- What a command makes of the binders opened so far. -/
def onBinders (command : Command σ α) (bs : List (Binder α)) : List (Binder α) :=
  match command.call? with
  | some (binder, call) => bs.modify binder (Binder.call · call)
  | none => bs ++ (command.opened?.map (Binder.fresh bs.length)).toList

variable {command : Command σ α} {bs : List (Binder α)} {k : Nat}

/-- A binder is one that there was, perhaps after a call, or it has just been opened. -/
theorem onBinders_cases {b' : Binder α} (h : (command.onBinders bs)[k]? = some b') :
    (∃ b, bs[k]? = some b ∧ (b' = b ∨ ∃ call, b' = b.call call)) ∨
      ∃ query, command.opened? = some query ∧ k = bs.length ∧ b' = .fresh k query := by
  unfold onBinders at h
  split at h
  · rw [List.getElem?_modify] at h
    obtain ⟨b, hb, rfl⟩ := Option.map_eq_some_iff.mp h
    refine Or.inl ⟨b, hb, ?_⟩
    split_ifs
    · exact Or.inr ⟨_, rfl⟩
    · exact Or.inl rfl
  · rw [List.getElem?_append] at h
    split_ifs at h with hlt
    · exact Or.inl ⟨b', h, Or.inl rfl⟩
    · cases hopened : command.opened? with
      | none => simp [hopened] at h
      | some query =>
        rw [hopened] at h
        obtain ⟨hindex, rfl⟩ := List.getElem?_eq_some_iff.mp h
        have hk : k = bs.length := by
          have : k - bs.length < 1 := hindex
          omega
        subst hk
        exact Or.inr ⟨query, rfl, rfl, by simp⟩

theorem onBinders_frozen {b : Binder α} (h : bs[k]? = some b.freeze) :
    (command.onBinders bs)[k]? = some b.freeze := by
  unfold onBinders
  split
  · rw [List.getElem?_modify, h]
    show some (if _ then _ else _) = _
    rw [Binder.call_freeze, ite_self]
  · rw [List.getElem?_append_left (List.getElem?_eq_some_iff.mp h).1, h]

theorem onBinders_executed {b : Binder α} (hk : command.executed? = some k)
    (h : bs[k]? = some b) : (command.onBinders bs)[k]? = some b.freeze := by
  obtain ⟨mode, hcall⟩ : ∃ mode, command.call? = some (k, .execute mode) := by
    cases command with
    | execute binder mode =>
      cases hk
      exact ⟨mode, rfl⟩
    | start binder mode =>
      cases hk
      exact ⟨mode, rfl⟩
    | _ => cases hk
  simp only [onBinders, hcall, List.getElem?_modify_eq, h]
  rfl

end Command

/-- The binders go by their positions. -/
def Numbered (c : Client σ α) : Prop :=
  ∀ (k : Nat) (b : Binder α), c.binders[k]? = some b → b.id = k

theorem readState_frame (c : Client σ α) (q : Query α) :
    (c.readState q).2.binders = c.binders ∧ (c.readState q).2.engine = c.engine := by
  unfold readState
  split_ifs <;> exact ⟨rfl, rfl⟩

theorem plan_binders (c : Client σ α) (b : Binder α) (mode : Mode) :
    (c.plan b mode).2.binders = c.binders.set b.id b.freeze := by
  unfold plan
  show (if _ then _ else _ : Client σ α).binders = _
  split_ifs
  · exact (readState_frame _ _).1
  · rfl

theorem adjust_binders {c : Client σ α} {b : Binder α} (h : c.binders[b.id]? = some b)
    (change : Adjustment) :
    (c.adjust b change).2.binders = c.binders.set b.id (b.call (.adjust change)) := by
  cases ha : b.adjust change with
  | ok b' => simp only [adjust, Binder.call, ha]
  | error e =>
    obtain ⟨hlt, hget⟩ := List.getElem?_eq_some_iff.mp h
    have hself := List.set_getElem_self hlt
    rw [hget] at hself
    simp only [adjust, Binder.call, ha, hself]

theorem adjust_engine (c : Client σ α) (b : Binder α) (change : Adjustment) :
    (c.adjust b change).2.engine = c.engine := by
  unfold adjust
  cases b.adjust change <;> rfl

variable [Backend σ]

theorem start_engine (c : Client σ α) (b : Binder α) (mode : Mode) :
    (c.start b mode).engine =
      c.engine.start b.query mode (b.plan mode (b.query.source.stateAt (c.now b.query))) := by
  obtain ⟨hplan, hengine⟩ := c.plan_eq b mode
  simp only [start, hplan, hengine]

theorem execute_binders (c : Client σ α) (b : Binder α) (mode : Mode) :
    (c.execute b mode).2.binders = c.binders.set b.id b.freeze := by
  unfold execute
  split_ifs
  · exact c.plan_binders b mode
  · exact c.plan_binders b mode

theorem step_binders {c : Client σ α} (hc : c.Numbered) (command : Command σ α) :
    (c.step command).2.binders = command.onBinders c.binders := by
  cases command with
  | alterStore change => exact (List.append_nil _).symm
  | setClock now => exact (List.append_nil _).symm
  | readState query => exact (c.readState_frame query).1.trans (List.append_nil _).symm
  | readPlan query => exact (c.readState_frame query).1.trans (List.append_nil _).symm
  | openBinder query => rfl
  | wait task => exact (List.append_nil _).symm
  | turn task => exact (List.append_nil _).symm
  | takeLog => exact (List.append_nil _).symm
  | adjust binder change =>
    show _ = c.binders.modify binder _
    rw [List.modify_eq_set_getElem?, step]
    cases h : c.binders[binder]? with
    | none => rfl
    | some b =>
      obtain rfl := hc binder b h
      exact adjust_binders h change
  | execute binder mode =>
    show _ = c.binders.modify binder _
    rw [List.modify_eq_set_getElem?, step]
    cases h : c.binders[binder]? with
    | none => rfl
    | some b =>
      obtain rfl := hc binder b h
      exact c.execute_binders b mode
  | start binder mode =>
    show _ = c.binders.modify binder _
    rw [List.modify_eq_set_getElem?, step]
    cases h : c.binders[binder]? with
    | none => rfl
    | some b =>
      obtain rfl := hc binder b h
      exact c.plan_binders b mode

/-- What a command does to the engine: nothing, or what its execution, its waiting or its turn
    does. -/
theorem step_engine (c : Client σ α) (command : Command σ α) :
    (c.step command).2.engine =
      match command with
      | .alterStore change =>
        let store := change c.engine.connection.store
        { c.engine with connection := { c.engine.connection with store } }
      | .execute k mode =>
        match c.binders[k]? with
        | some b =>
          (c.engine.serve b.query mode (b.plan mode (b.query.source.stateAt (c.now b.query)))).2
        | none => c.engine
      | .start k mode =>
        match c.binders[k]? with
        | some b =>
          c.engine.start b.query mode (b.plan mode (b.query.source.stateAt (c.now b.query)))
        | none => c.engine
      | .wait task => (c.engine.wait task).2
      | .turn task => c.engine.turn task
      | .takeLog => { c.engine with log := [] }
      | _ => c.engine := by
  cases command with
  | alterStore change => rfl
  | setClock now => rfl
  | readState query => exact (c.readState_frame query).2
  | readPlan query => exact (c.readState_frame query).2
  | openBinder query => rfl
  | takeLog => rfl
  | wait task => rfl
  | turn task => rfl
  | adjust k change =>
    simp only [step]
    cases c.binders[k]? with
    | none => rfl
    | some b => exact c.adjust_engine b change
  | execute k mode =>
    simp only [step]
    cases c.binders[k]? with
    | none => rfl
    | some b => exact (c.execute_eq_serve b mode).2
  | start k mode =>
    simp only [step]
    cases c.binders[k]? with
    | none => rfl
    | some b => exact c.start_engine b mode

/-- The statements that a command can issue: those that the binder makes that it executes,
    or what is left of the walk that it waits for or gives a turn. -/
def Issues (c : Client σ α) (command : Command σ α) (statement : BoundStatement) : Prop :=
  (∃ k b, command.executed? = some k ∧ c.binders[k]? = some b ∧ b.Makes statement) ∨
    ∃ task, (command = .wait task ∨ command = .turn task) ∧ c.engine.Leaves task statement

/-- A command issues no other statements, and adds tasks only for a binder. -/
theorem step_grows (c : Client σ α) (command : Command σ α) :
    ∃ n, Engine.Grows (c.Issues command) n c.engine (c.step command).2.engine ∧
      (command.executed? = none → n = 0) := by
  have hidle (e : Engine σ α) (htasks : e.tasks = c.engine.tasks)
      (hsent : e.connection.sent = c.engine.connection.sent) :
      ∃ n, Engine.Grows (c.Issues command) n c.engine e ∧ (command.executed? = none → n = 0) :=
    ⟨0, .of_eq htasks hsent, fun _ => rfl⟩
  have hmakes {binder : Nat} {b : Binder α} (hk : command.executed? = some binder)
      (hb : c.binders[binder]? = some b) (mode : Mode) (plan : Plan)
      (hplan : b.plan mode (b.query.source.stateAt (c.now b.query)) = .ok plan) :
      ∀ s ∈ plan.statements, c.Issues command s := fun s hs =>
    Or.inl ⟨binder, b, hk, hb, Binder.makes_of_plan hplan s hs⟩
  rw [step_engine]
  cases command with
  | execute binder mode =>
    dsimp only
    cases h : c.binders[binder]? with
    | none => exact hidle _ rfl rfl
    | some b =>
      obtain ⟨n, hn⟩ := Engine.Grows.serve c.engine b.query mode (hmakes rfl h mode)
      exact ⟨n, hn, by rintro ⟨⟩⟩
  | start binder mode =>
    dsimp only
    cases h : c.binders[binder]? with
    | none => exact hidle _ rfl rfl
    | some b =>
      exact ⟨1, Engine.Grows.start c.engine b.query mode (hmakes rfl h mode), by rintro ⟨⟩⟩
  | wait task =>
    refine ⟨0, Engine.Grows.wait c.engine task fun s hs => ?_, fun _ => rfl⟩
    exact Or.inr ⟨task, Or.inl rfl, hs⟩
  | turn task =>
    refine ⟨0, Engine.Grows.turn c.engine task fun s hs => ?_, fun _ => rfl⟩
    exact Or.inr ⟨task, Or.inr rfl, hs⟩
  | _ => exact hidle _ rfl rfl

end Client

end RotatedShards
