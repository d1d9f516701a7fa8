import RotatedShards.Proofs.Execution.Commands
import RotatedShards.Proofs.Execution.Preview

/-!
# The log of an execution

An execution that is planned adds one line for debugging to the log, when it starts. Whatever
it waits for later adds warnings at most. The line names the ids that were selected. The
statements carry the ids of their tables, which are the same but for a pin to the absence of
rotation: that one is logged as it is, although its statement goes to the first table.

Results:
* `Engine.debugLines_serve`, `Engine.debugLines_wait`: what is added to the log.
* `Binder.selected_of_plan`: which ids are selected.
* `Definition.logged_of_build`: the line of an execution.
* `Definition.logged_unrotated`: a line that names no shard.
-/

namespace RotatedShards

variable {σ α : Type}

/-! ## Lines for debugging -/

namespace LogEntry

/-- The entry is for debugging. All others are warnings. -/
def isDebug : LogEntry → Bool
  | .single .. | .fanOut .. => true
  | .surplus .. => false

end LogEntry

namespace Plan

/-- The ids that a plan was made for, as they were selected. -/
def selected : Plan → List ShardId
  | .single shard _ => [shard]
  | .fanOut shards _ => shards

/-- The line about a plan for a query that names the given ids. -/
def lineNaming (plan : Plan) (query : String) (ids : List ShardId) : String :=
  let list := ",".intercalate (ids.map ShardId.text)
  match plan with
  | .single .. => s!"DEBUG \"{query}\" query from single shard {list}"
  | .fanOut .. => s!"DEBUG \"{query}\" fetch from shards {list}"

theorem line_logEntry (plan : Plan) (query : String) :
    (plan.logEntry query).line = plan.lineNaming query plan.selected := by
  cases plan <;> rfl

theorem isDebug_logEntry (plan : Plan) (query : String) :
    (plan.logEntry query).isDebug = true := by
  cases plan <;> rfl

end Plan

/-! ## What is added to the log -/

namespace Engine

/-- The lines for debugging in the log. -/
def debugLines (e : Engine σ α) : List String := (e.log.filter LogEntry.isDebug).map LogEntry.line

theorem debugLines_accept (e : Engine σ α) (query : String) (plan : Plan) :
    (e.accept query plan).debugLines = e.debugLines ++ [plan.lineNaming query plan.selected] := by
  have hentry : [plan.logEntry query].filter LogEntry.isDebug = [plan.logEntry query] :=
    List.filter_eq_self.mpr (by simp [plan.isDebug_logEntry])
  simp only [debugLines, accept, List.filter_append, hentry, List.map_append, List.map_cons,
    List.map_nil, plan.line_logEntry]

theorem debugLines_record (e : Engine σ α) (work : Gathering α) :
    (e.record work).debugLines = e.debugLines := by
  have hwarning : (work.settle.surplus.map (LogEntry.surplus work.query)).toList.filter
      LogEntry.isDebug = [] := by
    cases work.settle.surplus <;> rfl
  simp only [debugLines, record, List.filter_append, hwarning, List.append_nil]

theorem debugLines_advance (e : Engine σ α) (time : Nat) :
    (e.advance time).debugLines = e.debugLines := by
  show ((e.settledBy time).foldl record e).debugLines = _
  generalize e.settledBy time = settled
  induction settled generalizing e with
  | nil => rfl
  | cons work rest ih => rw [List.foldl_cons, ih, debugLines_record]

section Backend

variable [Backend σ]

theorem debugLines_sendAll (e : Engine σ α) (statements : List BoundStatement) :
    (e.sendAll statements).2.debugLines = e.debugLines := by
  induction statements generalizing e with
  | nil => rfl
  | cons statement rest ih => exact ih (e.send statement).2

theorem debugLines_proceed (e : Engine σ α) (task : Nat) :
    (e.proceed task).debugLines = e.debugLines := by
  unfold proceed
  split <;> rfl

theorem debugLines_turn (e : Engine σ α) (task : Nat) :
    (e.turn task).debugLines = e.debugLines :=
  turn_induct (motive := fun e' => e'.debugLines = e.debugLines) task rfl (fun _ h => h)
    (fun e' time h => (e'.debugLines_advance time).trans h)
    fun e' h => (e'.debugLines_proceed task).trans h

/-- Waiting adds no line but warnings. -/
theorem debugLines_wait (e : Engine σ α) (task : Nat) :
    (e.wait task).2.debugLines = e.debugLines :=
  wait_induct (motive := fun e' => e'.debugLines = e.debugLines) task rfl
    (fun e' h => (e'.debugLines_turn task).trans h) fun _ h => h

theorem debugLines_start (e : Engine σ α) (q : Query α) (mode : Mode) (plan : Plan) :
    (e.start q mode (.ok plan)).debugLines =
      e.debugLines ++ [plan.lineNaming q.text plan.selected] := by
  rw [← debugLines_accept]
  cases hwalks : q.walks mode plan with
  | true =>
    rw [start_of_walks e q mode plan hwalks]
    rfl
  | false =>
    rw [start_of_not_walks e q mode plan hwalks]
    exact debugLines_sendAll _ _

theorem debugLines_call (e : Engine σ α) (q : Query α) (plan : Plan) :
    (e.call q (.ok plan)).2.debugLines =
      e.debugLines ++ [plan.lineNaming q.text plan.selected] := by
  rw [← debugLines_accept]
  simp only [call]
  split
  · rfl
  · split <;> rfl

/-- An execution adds the line about its plan. -/
theorem debugLines_serve (e : Engine σ α) (q : Query α) (mode : Mode) (plan : Plan) :
    (e.serve q mode (.ok plan)).2.debugLines =
      e.debugLines ++ [plan.lineNaming q.text plan.selected] := by
  unfold serve
  split_ifs
  · exact e.debugLines_call q plan
  · rw [debugLines_wait, debugLines_start]

end Backend

end Engine

/-! ## Ids of a plan -/

namespace Binder

variable {b : Binder α} {mode : Mode} {state : Except QueryError RotationState} {plan : Plan}

theorem map_shard_of_mapM {shards : List ShardId} {statements : List BoundStatement}
    (h : shards.mapM b.materialize = .ok statements) :
    statements.map BoundStatement.shard =
      shards.map fun shard => if shard = .noRotation then .first else shard := by
  rw [mapM_eq_ok_iff] at h
  induction h with
  | nil => rfl
  | cons hst _ ih => rw [List.map_cons, List.map_cons, ih, shard_of_materialize hst]

/-- The statements carry the ids that were selected, with that of the first table in the place
    of the absence of rotation. -/
theorem shards_of_plan (h : b.plan mode state = .ok plan) :
    plan.statements.map BoundStatement.shard =
      plan.selected.map fun shard => if shard = .noRotation then .first else shard := by
  cases planned_of_plan h with
  | shard _ hst => exact congrArg (fun shard => [shard]) (shard_of_materialize hst)
  | current _ _ hst => exact congrArg (fun shard => [shard]) (shard_of_materialize hst)
  | window _ _ _ _ hst => exact map_shard_of_mapM hst

/-- Which ids are selected: that of the only table, that of the pin, or else ids of the rotation,
    none of which is the absence of rotation. -/
theorem selected_of_plan (h : b.plan mode state = .ok plan) :
    (b.query.numShards = 1 ∧ plan.selected = [.first]) ∨
    (b.query.numShards ≠ 1 ∧ ∃ shard, b.pinned = some shard ∧ plan.selected = [shard]) ∨
    (b.query.numShards ≠ 1 ∧ b.pinned = none ∧ .noRotation ∉ plan.selected) := by
  cases planned_of_plan h with
  | shard hr _ =>
    rcases of_route_shard hr with ⟨h1, rfl⟩ | ⟨h1, hp⟩
    · exact .inl ⟨h1, rfl⟩
    · exact .inr (.inl ⟨h1, _, hp, rfl⟩)
  | @current s _ hr _ _ =>
    obtain ⟨h1, hp, -⟩ := of_route_current hr
    refine .inr (.inr ⟨h1, hp, fun hmem => ?_⟩)
    exact s.ne_noRotation s.current_mem (List.mem_singleton.mp hmem).symm
  | @window s _ _ hr _ _ hres _ =>
    obtain ⟨h1, hp, -⟩ := of_route_window hr
    refine .inr (.inr ⟨h1, hp, fun hmem => ?_⟩)
    exact s.ne_noRotation ((Resolver.plan_isPrefix hres).subset hmem) rfl

/-- A family with several tables is pinned to the absence of rotation. -/
def Unrotated (b : Binder α) : Prop := b.query.numShards ≠ 1 ∧ b.pinned = some .noRotation

/-- The ids that were selected are those of the statements, unless a rotating family is pinned
    to the absence of rotation. -/
theorem selected_eq (h : b.plan mode state = .ok plan) :
    (¬b.Unrotated → plan.selected = plan.statements.map BoundStatement.shard) ∧
      (b.Unrotated → plan.selected = [.noRotation] ∧
        plan.statements.map BoundStatement.shard = [.first]) := by
  rw [shards_of_plan h]
  have hkept (hne : .noRotation ∉ plan.selected) :
      plan.selected =
        plan.selected.map fun shard => if shard = .noRotation then .first else shard := by
    refine (List.map_id _).symm.trans (List.map_congr_left fun shard hmem => ?_)
    rw [if_neg (ne_of_mem_of_not_mem hmem hne)]
    rfl
  rcases selected_of_plan h with ⟨h1, hs⟩ | ⟨h1, shard, hp, hs⟩ | ⟨h1, hp, hne⟩
  · refine ⟨fun _ => hkept ?_, fun hu => absurd h1 hu.1⟩
    rw [hs]
    decide
  · constructor
    · intro hu
      apply hkept
      rw [hs, List.mem_singleton]
      rintro rfl
      exact hu ⟨h1, hp⟩
    · rintro ⟨-, hp'⟩
      rw [hp] at hp'
      obtain rfl := Option.some.inj hp'
      rw [hs]
      exact ⟨rfl, rfl⟩
  · refine ⟨fun _ => hkept hne, ?_⟩
    rintro ⟨-, hp'⟩
    rw [hp] at hp'
    cases hp'

end Binder

/-! ## Executions of built queries -/

namespace Definition

/-- Whatever calls are made on a binder of a query that was built, its execution adds exactly one
    line for debugging if there is a plan for it, and does so when it is started: to wait adds
    none. The line names the query and the ids of the statements in their order, except where a
    rotating family is pinned to the absence of rotation: there the line names that, and the
    statement goes to the first shard. -/
theorem logged_of_build [Backend σ] {d : Definition α} {q : Query α} (h : d.build = .ok q)
    {b : Binder α} {id : Nat} {calls : List Binder.Call}
    (hb : (Binder.fresh id q).after calls = b) (mode : Mode) (c : Client σ α) {plan : Plan}
    (hplan : b.plan mode (q.source.stateAt (c.now q)) = .ok plan) :
    ∃ ids, (c.execute b mode).2.engine.debugLines =
        c.engine.debugLines ++ [plan.lineNaming q.text ids] ∧
      (c.start b mode).engine.debugLines = c.engine.debugLines ++ [plan.lineNaming q.text ids] ∧
      (∀ task, ((c.start b mode).wait task).2.engine.debugLines =
        (c.start b mode).engine.debugLines) ∧
      (¬b.Unrotated → ids = plan.statements.map BoundStatement.shard) ∧
      (b.Unrotated → ids = [.noRotation] ∧
        plan.statements.map BoundStatement.shard = [.first]) := by
  obtain ⟨rfl, -⟩ : b.query = q ∧ b.Sound :=
    hb ▸ Binder.sound_after (Binder.sound_fresh (build_sound h) id) calls
  refine ⟨plan.selected, ?_, ?_, ?_, Binder.selected_eq hplan⟩
  · rw [(c.execute_eq_serve b mode).2, hplan, Engine.debugLines_serve]
  · rw [c.start_engine b mode, hplan, Engine.debugLines_start]
  · intro task
    exact (c.start b mode).engine.debugLines_wait task

theorem logged_of_build_window :
    ∃ q b, eventsOfKey.build = .ok q ∧
      (Binder.fresh 0 q).after [.adjust (.bindNamed "key" (.text "a"))] = b ∧
      (thirdHour.execute b .one).2.engine.debugLines =
        ["DEBUG \"SELECT * FROM events\" fetch from shards 2,1,0"] := by
  obtain ⟨ids, hline, -, -, hids, -⟩ := logged_of_build (d := eventsOfKey) rfl
    (b := (Binder.fresh 0 _).after [.adjust (.bindNamed "key" (.text "a"))]) rfl .one thirdHour rfl
  refine ⟨_, _, rfl, rfl, hline.trans ?_⟩
  rw [hids fun hu => absurd hu.2 (by decide)]
  rfl

/-- A read of three tables that is pinned to the absence of rotation goes to the first one, and the
    log names none of them. -/
theorem logged_unrotated :
    ∃ q b plan, eventsOfKey.build = .ok q ∧
      (Binder.fresh 0 q).after [.adjust (.bind 0 (.text "a")), .adjust (.pin .noRotation)] = b ∧
      b.plan .sync (q.source.stateAt (thirdHour.now q)) = .ok plan ∧
      plan.statements.map BoundStatement.shard = [.first] ∧
      (thirdHour.execute b .sync).2.engine.debugLines =
        ["DEBUG \"SELECT * FROM events\" query from single shard -1"] ∧
      (thirdHour.execute b .sync).2.engine.debugLines ≠
        thirdHour.engine.debugLines ++
          [plan.lineNaming q.text (plan.statements.map BoundStatement.shard)] := by
  refine ⟨_, _, _, rfl, rfl, rfl, rfl, rfl, ?_⟩
  decide

end Definition

end RotatedShards
