import RotatedShards.Proofs.Query.Built

/-!
# Planning

Which statements an execution is to send, and why there may be none. For a binder of
a sound query and a state with as many shards, a plan fails only where its source has
no state, where the mode cannot merge, or where the only shard in range is left out.
Queries that differ in nothing but their sources and policies have the same plans for
a shard that is known beforehand.

Results:
* `Binder.materialize_eq_ok_iff`: the statement for a shard.
* `Binder.plan_of_route_shard`, `Binder.plan_of_route_current`,
  `Binder.plan_of_route_window`: the plan on each route.
* `Binder.plan_of_upsert`, `Binder.plan_of_read`: the plans of unpinned writes and reads.
* `Binder.planned_of_plan`: the routes on which there is a plan.
* `Binder.plan_error_cases`: why there is no plan.
* `Binder.plan_onto`: plans that no policy has a say in.
* `Binder.planningFault_of_plan`: the configuration errors of planning.
-/

namespace RotatedShards

variable {α : Type}

namespace Binder

/-! ## Statements -/

/-- The statement for a shard is that of its table, with the values and overrides of
    the binder. -/
theorem materialize_eq_ok_iff {b : Binder α} {shard : ShardId} {statement : BoundStatement} :
    b.materialize shard = .ok statement ↔
      ∃ index prepared, shard.tableIndex? = some index ∧
        b.query.statements[index]? = some prepared ∧ b.values.length = prepared.params ∧
        statement = { shard := .ofIndex index, text := prepared.text, values := b.values
                      consistency := b.consistency, serial := b.serial } := by
  constructor
  · intro h
    unfold materialize at h
    cases hi : shard.tableIndex? with
    | none => simp [hi] at h
    | some index =>
      simp only [hi] at h
      split_ifs at h with hlt
      split at h
      · rename_i prepared hp
        obtain ⟨bound, hbound, rfl⟩ := map_eq_ok_iff.mp h
        unfold PreparedStatement.bind at hbound
        split_ifs at hbound with hlen
        cases hbound
        exact ⟨index, prepared, rfl, hp, hlen, rfl⟩
      · cases h
  · rintro ⟨index, prepared, hi, hp, hlen, rfl⟩
    obtain ⟨hlt, rfl⟩ := List.getElem?_eq_some_iff.mp hp
    simp [materialize, hi, hlt, PreparedStatement.bind, hlen, Except.map]

theorem exists_materialize {b : Binder α} (hb : b.Sound) {shard : ShardId}
    (hs : shard.addresses b.query.numShards = true) :
    ∃ statement, b.materialize shard = .ok statement := by
  obtain ⟨index, hi, hlt⟩ := ShardId.addresses_iff.mp hs
  rw [← hb.query_sound.length_statements] at hlt
  have hget := List.getElem?_eq_getElem hlt
  refine ⟨_, materialize_eq_ok_iff.mpr ⟨index, _, hi, hget, ?_, rfl⟩⟩
  rw [hb.length_values, hb.query_sound.params_eq _ (List.getElem_mem hlt)]

/-- A statement names the shard that it is for. That is the first one where there is
    no rotation. -/
theorem shard_of_materialize {b : Binder α} {shard : ShardId} {statement : BoundStatement}
    (h : b.materialize shard = .ok statement) :
    statement.shard = if shard = .noRotation then .first else shard := by
  obtain ⟨index, prepared, hi, -, -, rfl⟩ := materialize_eq_ok_iff.mp h
  exact ShardId.ofIndex_of_tableIndex? hi

/-- A sound binder has the statements for shards of a rotating family that have tables. -/
theorem exists_mapM_materialize {b : Binder α} (hb : b.Sound) {shards : List ShardId}
    (hne : ∀ s ∈ shards, s ≠ .noRotation)
    (hs : ∀ s ∈ shards, s.addresses b.query.numShards = true) :
    ∃ statements, shards.mapM b.materialize = .ok statements ∧
      statements.map BoundStatement.shard = shards := by
  obtain ⟨statements, hm⟩ := exists_mapM_eq_ok (f := b.materialize) fun s h =>
    exists_materialize hb (hs s h)
  refine ⟨statements, hm, ?_⟩
  rw [mapM_eq_ok_iff] at hm
  clear hs
  induction hm with
  | nil => rfl
  | cons hst _ ih =>
    rw [List.map_cons, ih fun s h => hne s (List.mem_cons_of_mem _ h), shard_of_materialize hst,
      if_neg (hne _ List.mem_cons_self)]

/-! ## Routes -/

theorem route_of_only {b : Binder α} (h1 : b.query.numShards = 1) : b.route = .shard .first :=
  if_pos h1

theorem route_of_pinned {b : Binder α} (h1 : b.query.numShards ≠ 1) {shard : ShardId}
    (hp : b.pinned = some shard) : b.route = .shard shard := by
  rw [route, if_neg h1, hp]

theorem route_of_upsert {b : Binder α} (h1 : b.query.numShards ≠ 1) (hp : b.pinned = none)
    (hu : b.query.upsert = true) : b.route = .current := by
  rw [route, if_neg h1, hp, hu]
  rfl

theorem route_of_read {b : Binder α} (h1 : b.query.numShards ≠ 1) (hp : b.pinned = none)
    (hu : b.query.upsert = false) : b.route = .window := by
  rw [route, if_neg h1, hp, hu]
  rfl

/-- The rules of selection, of which the first that applies decides. -/
theorem route_cases (b : Binder α) :
    (b.query.numShards = 1 ∧ b.route = .shard .first) ∨
    (b.query.numShards ≠ 1 ∧ ∃ shard, b.pinned = some shard ∧ b.route = .shard shard) ∨
    (b.query.numShards ≠ 1 ∧ b.pinned = none ∧ b.query.upsert = true ∧ b.route = .current) ∨
    (b.query.numShards ≠ 1 ∧ b.pinned = none ∧ b.query.upsert = false ∧ b.route = .window) := by
  by_cases h1 : b.query.numShards = 1
  · exact Or.inl ⟨h1, route_of_only h1⟩
  · cases hp : b.pinned with
    | some shard => exact Or.inr (Or.inl ⟨h1, shard, rfl, route_of_pinned h1 hp⟩)
    | none =>
      cases hu : b.query.upsert with
      | true => exact Or.inr (Or.inr (Or.inl ⟨h1, rfl, rfl, route_of_upsert h1 hp hu⟩))
      | false => exact Or.inr (Or.inr (Or.inr ⟨h1, rfl, rfl, route_of_read h1 hp hu⟩))

theorem of_route_shard {b : Binder α} {shard : ShardId} (hr : b.route = .shard shard) :
    (b.query.numShards = 1 ∧ shard = .first) ∨ (b.query.numShards ≠ 1 ∧ b.pinned = some shard) := by
  rcases b.route_cases with ⟨h1, h⟩ | ⟨h1, pin, hp, h⟩ | ⟨-, -, -, h⟩ | ⟨-, -, -, h⟩
  · exact Or.inl ⟨h1, (Route.shard.inj (h.symm.trans hr)).symm⟩
  · exact Or.inr ⟨h1, Route.shard.inj (h.symm.trans hr) ▸ hp⟩
  · simp [hr] at h
  · simp [hr] at h

theorem of_route_current {b : Binder α} (hr : b.route = .current) :
    b.query.numShards ≠ 1 ∧ b.pinned = none ∧ b.query.upsert = true := by
  rcases b.route_cases with ⟨-, h⟩ | ⟨-, shard, -, h⟩ | ⟨h1, hp, hu, -⟩ | ⟨-, -, -, h⟩
  · simp [hr] at h
  · simp [hr] at h
  · exact ⟨h1, hp, hu⟩
  · simp [hr] at h

theorem of_route_window {b : Binder α} (hr : b.route = .window) :
    b.query.numShards ≠ 1 ∧ b.pinned = none ∧ b.query.upsert = false := by
  rcases b.route_cases with ⟨-, h⟩ | ⟨-, shard, -, h⟩ | ⟨-, -, -, h⟩ | ⟨h1, hp, hu, -⟩
  · simp [hr] at h
  · simp [hr] at h
  · simp [hr] at h
  · exact ⟨h1, hp, hu⟩

/-- A rule of selection picks a single shard. -/
def singleShard (b : Binder α) : Bool :=
  b.query.numShards == 1 || b.pinned.isSome || b.query.upsert

theorem singleShard_eq_false_iff {b : Binder α} : b.singleShard = false ↔ b.route = .window := by
  rcases b.route_cases with ⟨h1, h⟩ | ⟨-, shard, hp, h⟩ | ⟨-, -, hu, h⟩ | ⟨h1, hp, hu, h⟩
  · simp [singleShard, h1, h]
  · simp [singleShard, hp, h]
  · simp [singleShard, hu, h]
  · simp [singleShard, h1, hp, hu, h]

theorem addresses_of_route {b : Binder α} (hb : b.Sound) {shard : ShardId}
    (hr : b.route = .shard shard) : shard.addresses b.query.numShards = true := by
  rcases of_route_shard hr with ⟨h1, rfl⟩ | ⟨-, hp⟩
  · rw [h1]
    decide
  · exact hb.pinned_addresses shard hp

/-! ## Plans -/

/-- For one shard that is known beforehand there is always a plan, whatever the state
    of the rotation. -/
theorem plan_of_route_shard {b : Binder α} (hb : b.Sound) {shard : ShardId}
    (hr : b.route = .shard shard) (mode : Mode) :
    ∃ statement, statement.shard = (if shard = .noRotation then .first else shard) ∧
      ∀ state, b.plan mode state = .ok (.single shard statement) := by
  obtain ⟨statement, hst⟩ := exists_materialize hb (addresses_of_route hb hr)
  refine ⟨statement, shard_of_materialize hst, fun state => ?_⟩
  unfold plan
  simp only [hr]
  exact map_eq_ok_iff.mpr ⟨statement, hst, rfl⟩

/-- Where the current shard is written to, there is a plan if it has a table. -/
theorem plan_of_route_current {b : Binder α} (hb : b.Sound) (hr : b.route = .current)
    (mode : Mode) {s : RotationState} (hs : s.current.addresses b.query.numShards = true) :
    ∃ statement, statement.shard = s.current ∧
      b.plan mode (.ok s) = .ok (.single s.current statement) := by
  obtain ⟨statement, hst⟩ := exists_materialize hb hs
  refine ⟨statement, ?_, ?_⟩
  · rw [shard_of_materialize hst, if_neg (s.ne_noRotation s.current_mem)]
  · unfold plan
    simp only [hr]
    exact map_eq_ok_iff.mpr ⟨statement, hst, rfl⟩

theorem plan_of_not_merges {b : Binder α} (hr : b.route = .window) {mode : Mode}
    (hm : mode.merges = false) (state : Except QueryError RotationState) :
    b.plan mode state = .error (.unsupported (.spansShards b.query.text)) := by
  unfold plan
  simp only [hr, hm, Bool.false_eq_true, if_false]

theorem plan_window_eq {b : Binder α} (hr : b.route = .window) {mode : Mode}
    (hm : mode.merges = true) (s : RotationState) :
    b.plan mode (.ok s) = b.query.resolve s >>= fun shards =>
      (shards.mapM b.materialize).map (.fanOut shards) := by
  unfold plan
  simp only [hr, hm, if_true]
  rfl

/-- Where the shards in range are read, there is a plan if all of them have tables. -/
theorem plan_of_route_window {b : Binder α} (hb : b.Sound) (hr : b.route = .window)
    {mode : Mode} (hm : mode.merges = true) {s : RotationState} {shards : List ShardId}
    (hres : b.query.resolve s = .ok shards)
    (hs : ∀ shard ∈ shards, shard.addresses b.query.numShards = true) :
    ∃ statements, statements.map BoundStatement.shard = shards ∧
      b.plan mode (.ok s) = .ok (.fanOut shards statements) := by
  have hne : ∀ shard ∈ shards, shard ≠ .noRotation := fun shard h =>
    s.ne_noRotation ((Resolver.plan_isPrefix hres).subset h)
  obtain ⟨statements, hst, hshards⟩ := exists_mapM_materialize hb hne hs
  refine ⟨statements, hshards, ?_⟩
  rw [plan_window_eq hr hm]
  exact bind_eq_ok_iff.mpr ⟨shards, hres, map_eq_ok_iff.mpr ⟨statements, hst, rfl⟩⟩

/-- An unpinned write goes to the current shard, in whichever mode. -/
theorem plan_of_upsert {b : Binder α} (hb : b.Sound) (hp : b.pinned = none)
    (hu : b.query.upsert = true) {s : RotationState} (hs : s.numShards = b.query.numShards)
    (mode : Mode) :
    ∃ shard statement, statement.shard = s.current ∧
      b.plan mode (.ok s) = .ok (.single shard statement) := by
  by_cases h1 : b.query.numShards = 1
  · obtain ⟨statement, hshard, hplan⟩ := plan_of_route_shard hb (route_of_only h1) mode
    rw [s.current_eq_of_only (hs.trans h1)]
    exact ⟨_, statement, hshard, hplan _⟩
  · obtain ⟨statement, hshard, hplan⟩ := plan_of_route_current hb (route_of_upsert h1 hp hu) mode
      (s.addresses_of_mem hs s.current_mem)
    exact ⟨_, statement, hshard, hplan⟩

/-- An unpinned read goes to the shards in range, in a mode that merges. -/
theorem plan_of_read {b : Binder α} (hb : b.Sound) (hp : b.pinned = none)
    (hu : b.query.upsert = false) {s : RotationState} (hs : s.numShards = b.query.numShards)
    {mode : Mode} (hm : mode.merges = true) {shards : List ShardId}
    (hres : b.query.resolve s = .ok shards) :
    ∃ plan, plan.statements.map BoundStatement.shard = shards ∧
      b.plan mode (.ok s) = .ok plan := by
  by_cases h1 : b.query.numShards = 1
  · obtain ⟨statement, hshard, hplan⟩ := plan_of_route_shard hb (route_of_only h1) mode
    obtain ⟨n, -, hwidth, rfl⟩ := Resolver.plan_eq_ok hres
    rw [s.ordered_eq_of_only (hs.trans h1), List.take_of_length_le hwidth]
    exact ⟨.single _ statement, congrArg (fun shard => [shard]) hshard, hplan _⟩
  · obtain ⟨statements, hshards, hplan⟩ := plan_of_route_window hb (route_of_read h1 hp hu) hm hres
      fun shard h => s.addresses_of_mem hs ((Resolver.plan_isPrefix hres).subset h)
    exact ⟨.fanOut _ statements, hshards, hplan⟩

/-- What a plan is, on each route: the statement for the shard that is known beforehand or for the
    current one, or the statements for the shards in range in a mode that merges. -/
inductive Planned (b : Binder α) (mode : Mode) (state : Except QueryError RotationState) :
    Plan → Prop
  | shard {shard : ShardId} {statement : BoundStatement} (hr : b.route = .shard shard)
      (hst : b.materialize shard = .ok statement) : Planned b mode state (.single shard statement)
  | current {s : RotationState} {statement : BoundStatement} (hr : b.route = .current)
      (hs : state = .ok s) (hst : b.materialize s.current = .ok statement) :
      Planned b mode state (.single s.current statement)
  | window {s : RotationState} {shards : List ShardId} {statements : List BoundStatement}
      (hr : b.route = .window) (hm : mode.merges = true) (hs : state = .ok s)
      (hres : b.query.resolve s = .ok shards)
      (hst : shards.mapM b.materialize = .ok statements) :
      Planned b mode state (.fanOut shards statements)

/-- Every plan comes about on one of the routes. -/
theorem planned_of_plan {b : Binder α} {mode : Mode} {state : Except QueryError RotationState}
    {plan : Plan} (h : b.plan mode state = .ok plan) : b.Planned mode state plan := by
  unfold Binder.plan at h
  split at h
  · obtain ⟨statement, hst, rfl⟩ := map_eq_ok_iff.mp h
    exact .shard ‹_› hst
  · obtain ⟨s, hs, h⟩ := bind_eq_ok_iff.mp h
    obtain ⟨statement, hst, rfl⟩ := map_eq_ok_iff.mp h
    exact .current ‹_› hs hst
  · split_ifs at h with hm
    obtain ⟨s, hs, h⟩ := bind_eq_ok_iff.mp h
    obtain ⟨shards, hres, h⟩ := bind_eq_ok_iff.mp h
    obtain ⟨statements, hst, rfl⟩ := map_eq_ok_iff.mp h
    exact .window ‹_› hm hs hres hst

/-- A plan is for one shard exactly where a rule picks a single one. -/
theorem single_or_fanOut_of_plan {b : Binder α} {mode : Mode}
    {state : Except QueryError RotationState} {plan : Plan} (h : b.plan mode state = .ok plan) :
    (b.singleShard = true ∧ ∃ shard statement, plan = .single shard statement) ∨
      (b.singleShard = false ∧ ∃ shards statements, plan = .fanOut shards statements) := by
  have hsingle (hr : b.route ≠ .window) : b.singleShard = true := by
    rw [← Bool.not_eq_false, singleShard_eq_false_iff]
    exact hr
  cases planned_of_plan h with
  | shard hr => exact Or.inl ⟨hsingle (by simp [hr]), _, _, rfl⟩
  | current hr => exact Or.inl ⟨hsingle (by simp [hr]), _, _, rfl⟩
  | window hr => exact Or.inr ⟨singleShard_eq_false_iff.mpr hr, _, _, rfl⟩

theorem merges_or_single_of_plan {b : Binder α} {mode : Mode}
    {state : Except QueryError RotationState} {plan : Plan} (h : b.plan mode state = .ok plan) :
    mode.merges = true ∨ ∃ shard statement, plan = .single shard statement := by
  cases planned_of_plan h with
  | shard => exact Or.inr ⟨_, _, rfl⟩
  | current => exact Or.inr ⟨_, _, rfl⟩
  | window _ hm => exact Or.inl hm

/-- Why there is no plan for a sound binder: the source has no state, the shards in
    range are to be read in a mode that cannot merge, or the only shard in range is
    left out. -/
theorem plan_error_cases {b : Binder α} (hb : b.Sound) {mode : Mode}
    {state : Except QueryError RotationState}
    (hstate : ∀ s, state = .ok s → s.numShards = b.query.numShards) {e : QueryError}
    (h : b.plan mode state = .error e) :
    (state = .error e ∧ b.needsState mode = true) ∨
    (b.route = .window ∧ mode.merges = false ∧
      e = .unsupported (.spansShards b.query.text)) ∨
    (b.route = .window ∧ e = .configuration .rangeNotPositive ∧
      b.query.policy.baseRange = .ok 1 ∧
      ∃ s, state = .ok s ∧ b.query.resolver.shrinks s b.query.policy = true) := by
  cases hr : b.route with
  | shard shard =>
    obtain ⟨statement, -, hplan⟩ := plan_of_route_shard hb hr mode
    rw [hplan] at h
    cases h
  | current =>
    cases state with
    | error e' =>
      simp only [plan, hr] at h
      cases h
      exact Or.inl ⟨rfl, by simp [needsState, hr]⟩
    | ok s =>
      obtain ⟨statement, -, hplan⟩ := plan_of_route_current hb hr mode
        (s.addresses_of_mem (hstate s rfl) s.current_mem)
      rw [hplan] at h
      cases h
  | window =>
    cases hm : mode.merges with
    | false =>
      rw [plan_of_not_merges hr hm] at h
      cases h
      exact Or.inr (Or.inl ⟨rfl, rfl, rfl⟩)
    | true =>
      cases state with
      | error e' =>
        simp only [plan, hr, hm] at h
        cases h
        exact Or.inl ⟨rfl, by simp [needsState, hr, hm]⟩
      | ok s =>
        cases hres : b.query.resolve s with
        | ok shards =>
          obtain ⟨statements, -, hplan⟩ := plan_of_route_window hb hr hm hres fun shard h =>
            s.addresses_of_mem (hstate s rfl) ((Resolver.plan_isPrefix hres).subset h)
          rw [hplan] at h
          cases h
        | error e' =>
          rw [plan_window_eq hr hm, hres] at h
          cases h
          obtain ⟨h1, hpinned, hupsert⟩ := of_route_window hr
          have hv := hb.query_sound.validate_eq_ok (hb.pinned_eq_none hpinned)
            (by have := hb.query_sound.numShards_pos; omega) hupsert
          obtain ⟨he, hbase, hs⟩ := Resolver.plan_eq_error hv hres
          exact Or.inr (Or.inr ⟨rfl, he, hbase, s, rfl, hs⟩)

/-! ## Causes -/

theorem cause_of_materialize {b : Binder α} {shard : ShardId} {e : QueryError}
    (h : b.materialize shard = .error e) : ∃ cause, e = .configuration cause := by
  unfold materialize at h
  simp only at h
  split at h
  · split_ifs at h
    · split at h
      · have h := map_eq_error_iff.mp h
        unfold PreparedStatement.bind at h
        split_ifs at h
        cases h
        exact ⟨_, rfl⟩
      · cases h
        exact ⟨_, rfl⟩
    · cases h
      exact ⟨_, rfl⟩
  · cases h
    exact ⟨_, rfl⟩

/-- An execution that has no plan is wrong about something, asks for what its mode cannot do,
    or finds no state of the rotation. -/
theorem cause_of_plan {b : Binder α} {mode : Mode} {state : Except QueryError RotationState}
    {e : QueryError} (h : b.plan mode state = .error e) :
    state = .error e ∨ (∃ cause, e = .configuration cause) ∨ ∃ cause, e = .unsupported cause := by
  unfold plan at h
  split at h
  · exact Or.inr (Or.inl (cause_of_materialize (map_eq_error_iff.mp h)))
  · rcases bind_eq_error_iff.mp h with hstate | ⟨s, -, h⟩
    · exact Or.inl hstate
    · exact Or.inr (Or.inl (cause_of_materialize (map_eq_error_iff.mp h)))
  · split_ifs at h
    · rcases bind_eq_error_iff.mp h with hstate | ⟨s, -, h⟩
      · exact Or.inl hstate
      refine Or.inr (Or.inl ?_)
      rcases bind_eq_error_iff.mp h with hresolve | ⟨shards, -, h⟩
      · rcases Resolver.plan_cases b.query.resolver s b.query.policy with
          ⟨e', hvalidate, hplan⟩ | ⟨n, -, -, ⟨-, hplan⟩ | ⟨-, hplan⟩⟩
        · cases hplan.symm.trans hresolve
          exact RangePolicy.cause_of_validate hvalidate
        · cases hplan.symm.trans hresolve
          exact ⟨_, rfl⟩
        · cases hplan.symm.trans hresolve
      · obtain ⟨shard, -, hshard⟩ := mapM_eq_error (map_eq_error_iff.mp h)
        exact cause_of_materialize hshard
    · cases h
      exact Or.inr (Or.inr ⟨_, rfl⟩)

/-! ## Queries that are alike -/

section Alike

variable {b : Binder α} {q' : Query α}

theorem route_onto (h : b.query.Alike q') (id : Nat) : (b.onto id q').route = b.route := by
  have hcount : (b.onto id q').query.numShards = b.query.numShards := h.numShards
  have hupsert : (b.onto id q').query.upsert = b.query.upsert := h.upsert
  unfold route
  rw [hcount, hupsert]
  rfl

theorem materialize_onto (h : b.query.Alike q') (id : Nat) (shard : ShardId) :
    (b.onto id q').materialize shard = b.materialize shard := by
  have hstatements : (b.onto id q').query.statements = b.query.statements := h.statements
  unfold materialize
  rw [hstatements]
  rfl

/-- Queries that are alike have the same plan for a shard that is known beforehand, in
    whatever states, and for the current one in the same state. -/
theorem plan_onto (h : b.query.Alike q') (id : Nat) (mode : Mode)
    {state state' : Except QueryError RotationState}
    (hr : (∃ shard, b.route = .shard shard) ∨ b.route = .current ∧ state' = state) :
    (b.onto id q').plan mode state' = b.plan mode state := by
  unfold plan
  rw [route_onto h]
  rcases hr with ⟨shard, hr⟩ | ⟨hr, rfl⟩
  · rw [hr]
    simp only [materialize_onto h]
  · rw [hr]
    simp only [materialize_onto h]

end Alike

end Binder

/-! ## Configuration errors -/

/-- The cause is one that building a query has ruled out for its executions: a table
    without a statement, a statement that takes other parameters, or an unset part of
    the policy. -/
def Misconfiguration.ruledOut : Misconfiguration → Bool
  | .noStatementFor .. | .statementMissing _ | .parameterCount .. | .rangeUnset
  | .shrinkWithoutExpiration => true
  | _ => false

namespace Binder

/-- What can still be wrong with a configuration when an execution is planned: the source
    has no state, or the only shard in range of an unpinned read is left out. -/
inductive PlanningFault (b : Binder α) (state : Except QueryError RotationState) :
    Misconfiguration → Prop
  | source {cause : Misconfiguration} (h : state = .error (.configuration cause)) :
      PlanningFault b state cause
  | range {s : RotationState} (hs : state = .ok s) (hn : 1 < b.query.numShards)
      (hpinned : b.pinned = none) (hupsert : b.query.upsert = false)
      (hbase : b.query.policy.baseRange = .ok 1)
      (hshrinks : b.query.resolver.shrinks s b.query.policy = true) :
      PlanningFault b state .rangeNotPositive

theorem planningFault_of_plan {b : Binder α} (hb : b.Sound) {mode : Mode}
    {state : Except QueryError RotationState}
    (hstate : ∀ s, state = .ok s → s.numShards = b.query.numShards) {cause : Misconfiguration}
    (h : b.plan mode state = .error (.configuration cause)) : b.PlanningFault state cause := by
  rcases plan_error_cases hb hstate h with ⟨h, -⟩ | ⟨-, -, h⟩ | ⟨hr, h, hbase, s, hs, hshrinks⟩
  · exact .source h
  · cases h
  · cases h
    obtain ⟨h1, hpinned, hupsert⟩ := of_route_window hr
    have := hb.query_sound.numShards_pos
    exact .range hs (by omega) hpinned hupsert hbase hshrinks

/-- The states and errors of a fixed source or a clock give no cause that building has
    ruled out. -/
theorem PlanningFault.ruledOut_eq_false {b : Binder α} {source : RotationSource}
    (hsource : source.FixedOrClock) {now : Instant} {cause : Misconfiguration}
    (h : b.PlanningFault (source.stateAt now) cause) : cause.ruledOut = false := by
  cases h with
  | range => rfl
  | source h =>
    rcases hsource.stateAt_cases now with ⟨s, hs, -⟩ | he
    · rw [hs] at h
      cases h
    · rw [he] at h
      cases h
      rfl

end Binder

end RotatedShards
