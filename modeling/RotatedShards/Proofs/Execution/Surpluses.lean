import RotatedShards.Proofs.Execution.Agreement
import RotatedShards.Proofs.Execution.Foresight

/-!
# Surpluses

An execution that is a read for at most one object and finds several. Whether it does is said
by how its statements turn out in the store as it is then, without the engine: all shards have
objects that can be decoded, and there is more than one of them. The engine counts exactly
these as violations, when the execution is taken; what is issued for it later, by turns or by a
wait, adds none.

Results:
* `Invocation.isSurplus_on`: an execution finds several objects if its gathering does.
* `Outlook.violations_start`, `Outlook.violations_serve`: an execution is counted if it does.
* `Client.violations_run`: a run counts the executions that do.
-/

namespace RotatedShards

variable {σ α : Type}

/-! ## Objects of the shards -/

/-- The objects of a shard, if it has rows that can be decoded. -/
def Outcome.objects? (mapper : RowMapper α) : Outcome → Option (List α)
  | .rows answer => (mapper.decodeMany answer).toOption
  | _ => none

namespace Outcome

variable {mapper : RowMapper α}

theorem mapM_objects?_of_rows (answers : List RawRows) :
    (answers.map rows).mapM (objects? mapper) = (answers.mapM mapper.decodeMany).toOption := by
  induction answers with
  | nil => rfl
  | cons first rest ih =>
    rw [List.map_cons, List.mapM_cons, List.mapM_cons, ih, objects?]
    cases mapper.decodeMany first with
    | error e => rfl
    | ok found => cases rest.mapM mapper.decodeMany <;> rfl

theorem mapM_objects?_eq_none {outcomes : List Outcome} {outcome : Outcome}
    (hmem : outcome ∈ outcomes) (hnone : outcome.objects? mapper = none) :
    outcomes.mapM (objects? mapper) = none := by
  induction outcomes with
  | nil => cases hmem
  | cons first rest ih =>
    rw [List.mapM_cons]
    rcases List.mem_cons.mp hmem with rfl | hmem
    · rw [hnone]
      rfl
    · rw [ih hmem]
      cases first.objects? mapper <;> rfl

end Outcome

/-! ## Executions -/

/-- An execution: its binder and its mode, its plan or why there is none, and how the statements
    of the plan turn out in the store as it is then. -/
structure Invocation (α : Type) where
  binder : Binder α
  mode : Mode
  plan : Except QueryError Plan
  outcomes : List Outcome

namespace Invocation

/-- An execution, with a store that is as it is then. -/
def on [Backend σ] (store : σ) (b : Binder α) (mode : Mode) (plan : Except QueryError Plan) :
    Invocation α :=
  { binder := b, mode, plan
    outcomes := match plan with
      | .ok plan => (trace store plan.statements).map Exchange.outcome
      | .error _ => [] }

/-- There is a plan. -/
def isAccepted (i : Invocation α) : Bool := i.plan.isOk

/-- There is a plan, and a rule of selection picks a single shard for it. -/
def isSingle (i : Invocation α) : Bool := i.isAccepted && i.binder.singleShard

/-- There is a plan, which spans the shards in range. -/
def isFanOut (i : Invocation α) : Bool := i.isAccepted && !i.binder.singleShard

/-- It is a read for at most one object that has a plan, and finds several: there are objects of
    all shards, and more than one of them. -/
def isSurplus (i : Invocation α) : Bool :=
  i.isAccepted && i.mode == .atMostOne &&
    (i.outcomes.mapM (Outcome.objects? i.binder.query.mapper)).any (1 < ·.flatten.length)

theorem countP_isAccepted (is : List (Invocation α)) :
    is.countP isAccepted = is.countP isSingle + is.countP isFanOut := by
  induction is with
  | nil => rfl
  | cons i rest ih =>
    rw [List.countP_cons, List.countP_cons, List.countP_cons, ih, isSingle, isFanOut]
    cases i.isAccepted <;> cases i.binder.singleShard <;> simp <;> omega

theorem isSurplus_eq_false {i : Invocation α} {outcome : Outcome} (hmem : outcome ∈ i.outcomes)
    (hnone : outcome.objects? i.binder.query.mapper = none) : i.isSurplus = false := by
  rw [isSurplus, Outcome.mapM_objects?_eq_none hmem hnone, Option.any_none, Bool.and_false]

/-- A gathering finds several objects where at most one is allowed if its execution does. -/
theorem isSurplus_on [Backend σ] (store : σ) (b : Binder α) (mode : Mode) (plan : Plan) :
    (on store b mode (.ok plan)).isSurplus =
      (Gathering.on store b.query mode plan).settle.surplus.isSome := by
  let g := Gathering.on store b.query mode plan
  have houtcomes : g.outcomes = (on store b mode (.ok plan)).outcomes :=
    Gathering.outcomes_on store b.query mode plan
  rcases g.settle_cases with ⟨hcrash, hs⟩ | ⟨-, fault, hfind, hs⟩ | ⟨rows, hrows, hs⟩
  · obtain ⟨outcome, hmem, houtcome⟩ := List.any_eq_true.mp hcrash
    cases outcome with
    | crashed => rw [isSurplus_eq_false (houtcomes ▸ hmem) rfl, hs]; rfl
    | rows rows => cases houtcome
    | failed fault => cases houtcome
  · rw [isSurplus_eq_false (houtcomes ▸ List.mem_of_find?_eq_some hfind) rfl, hs]
    rfl
  · rw [hs]
    cases mode with
    | atMostOne =>
      have hobjects : (on store b .atMostOne (.ok plan)).outcomes.mapM
          (Outcome.objects? b.query.mapper) = (rows.mapM b.query.mapper.decodeMany).toOption := by
        rw [← houtcomes, hrows, Outcome.mapM_objects?_of_rows]
      show Option.any _ ((on store b .atMostOne (.ok plan)).outcomes.mapM
        (Outcome.objects? b.query.mapper)) = (Merging.atMostOne.surplus? b.query.mapper rows).isSome
      rw [hobjects]
      cases hparts : rows.mapM b.query.mapper.decodeMany with
      | error e => simp only [Merging.surplus?, hparts]; rfl
      | ok parts =>
        rw [Merging.isSome_surplus?_atMostOne hparts]
        rfl
    | one => cases plan <;> rfl
    | sync => rfl
    | async => rfl
    | all => rfl

end Invocation

/-! ## Violations of an outlook -/

namespace Outlook

variable [Backend σ]

omit [Backend σ] in
theorem violations_accept (o : Outlook σ α) (plan : Plan) :
    (o.accept plan).totals.violations = o.totals.violations := by
  cases plan <;> rfl

omit [Backend σ] in
theorem violations_count (o : Outlook σ α) {s : Settlement α} (h : s.surplus = none) :
    (o.count s).totals.violations = o.totals.violations := by
  simp only [count, Statistics.countSettlement, h]
  rfl

theorem violations_start (o : Outlook σ α) (b : Binder α) (mode : Mode)
    (plan : Except QueryError Plan) :
    (o.start b.query mode plan).totals.violations =
      o.totals.violations + [Invocation.on o.store b mode plan].countP Invocation.isSurplus := by
  rw [List.countP_singleton]
  cases plan with
  | error e => rfl
  | ok plan =>
    cases hwalks : b.query.walks mode plan with
    | true =>
      rw [o.start_of_walks hwalks]
      cases mode with
      | one => exact o.violations_accept plan
      | _ => cases plan <;> cases hwalks
    | false =>
      rw [o.start_of_not_walks hwalks, Invocation.isSurplus_on, ← o.violations_accept plan]
      rfl

theorem violations_call (o : Outlook σ α) (q : Query α) (plan : Except QueryError Plan) :
    (o.call q plan).2.totals.violations = o.totals.violations := by
  cases plan with
  | error e => rfl
  | ok plan =>
    simp only [call]
    cases plan.statements with
    | nil => exact o.violations_accept plan
    | cons statement rest =>
      -- raw rows are handed on, however many there are
      have hnone (response : Response) :
          (Gathering.mk .rows q.text q.mapper [response]).settle.surplus = none := by
        obtain ⟨delay, outcome⟩ := response
        cases outcome <;> rfl
      exact (violations_count _ (hnone _)).trans (o.violations_accept plan)

theorem violations_turn (o : Outlook σ α) (t : Nat) :
    (o.turn t).totals.violations = o.totals.violations := by
  unfold turn
  split
  · rename_i mapper statement rest _
    refine violations_count (o.issue [statement]) ?_
    exact congrArg Settlement.surplus (Gathering.settle_ofStep mapper (.on o.store statement))
  · rfl
  · rfl

theorem violations_wait (o : Outlook σ α) (t : Nat) :
    (o.wait t).2.totals.violations = o.totals.violations := by
  unfold wait
  split <;> rfl

theorem violations_serve (o : Outlook σ α) (b : Binder α) (mode : Mode)
    (plan : Except QueryError Plan) :
    (o.serve b.query mode plan).2.totals.violations =
      o.totals.violations + [Invocation.on o.store b mode plan].countP Invocation.isSurplus := by
  unfold serve
  split_ifs with hsync
  · subst hsync
    have hsurplus : (Invocation.on o.store b .sync plan).isSurplus = false := by
      simp only [Invocation.isSurplus, Invocation.on]
      rw [(by rfl : (Mode.sync == Mode.atMostOne) = false), Bool.and_false, Bool.false_and]
    rw [violations_call, List.countP_singleton, hsurplus]
    rfl
  · rw [violations_wait, violations_start]

end Outlook

/-! ## Violations of a run -/

namespace Client

variable [Backend σ]

/-- The execution that a command asks for, if the binder has been opened. -/
def invocation? (c : Client σ α) : Command σ α → Option (Invocation α)
  | .execute k mode | .start k mode =>
    c.binders[k]?.map fun b => .on c.engine.connection.store b mode (c.planned b mode)
  | _ => none

/-- The executions that commands ask for one after the other. -/
def invocations (c : Client σ α) : List (Command σ α) → List (Invocation α)
  | [] => []
  | command :: rest => (c.invocation? command).toList ++ invocations (c.step command).2 rest

theorem violations_step (c : Client σ α) (command : Command σ α) :
    (c.step command).2.engine.outlook.totals.violations =
      c.engine.outlook.totals.violations +
        (c.invocation? command).toList.countP Invocation.isSurplus := by
  have houtlook : (c.step command).2.engine.outlook = (c.foresee command).2 :=
    congrArg Prod.snd (c.step_outlook command)
  rw [houtlook]
  cases command with
  | execute k mode =>
    simp only [foresee, invocation?]
    cases c.binders[k]? with
    | none => rfl
    | some b => exact Outlook.violations_serve _ b mode _
  | start k mode =>
    simp only [foresee, invocation?]
    cases c.binders[k]? with
    | none => rfl
    | some b => exact Outlook.violations_start _ b mode _
  | wait t => exact Outlook.violations_wait _ t
  | turn t => exact Outlook.violations_turn _ t
  | _ => rfl

theorem violations_run (c : Client σ α) (commands : List (Command σ α)) :
    (c.run commands).2.engine.outlook.totals.violations =
      c.engine.outlook.totals.violations +
        (c.invocations commands).countP Invocation.isSurplus := by
  induction commands generalizing c with
  | nil => rfl
  | cons command rest ih =>
    rw [run_cons, invocations, List.countP_append, ← Nat.add_assoc, ← c.violations_step command]
    exact ih _

end Client

end RotatedShards
