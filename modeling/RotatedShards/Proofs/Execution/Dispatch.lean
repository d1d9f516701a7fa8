import RotatedShards.Proofs.Execution.Turns
import RotatedShards.Proofs.Query.Planning
import RotatedShards.Store.Scripted

/-!
# Dispatch

Which shards an execution sends statements to, in each mode. A family of one table has
only that one; a pinned shard wins over the state of the rotation; an upsert goes to the
current shard; and any other read is refused or goes through the shards in range. Where
an earlier rule applies, what the later ones look at makes no difference.

Results:
* `Exchange.walk_untilDecided`: a sequential read stops at the first exchange that
  decides it.
* `Engine.serve_exchanges`: the exchanges that an execution adds, given its plan.
* `Client.exists_dispatch`: executions follow the rules of selection.
* `Client.sameOutcome_execute`: executions for queries that are alike.
* `Definition.dispatch_of_build`: both, for every binder of a built query.
-/

namespace RotatedShards

variable {σ α : Type}

/-! ## Sequential reads -/

namespace Exchange

/-- The shards that statements were issued for, in order. -/
def shards (xs : List Exchange) : List ShardId :=
  (xs.map Exchange.statement).map BoundStatement.shard

theorem shards_trace [Backend σ] (store : σ) (statements : List BoundStatement) :
    shards (trace store statements) = statements.map BoundStatement.shard := by
  rw [shards, map_statement_trace]

/-- The exchanges of a read that goes through the shards of a plan one after the other,
    up to the first one whose statement fails, whose rows cannot be decoded, or that
    has an object. -/
structure Walk (mapper : RowMapper α) (plan : List ShardId) (xs : List Exchange) : Prop where
  isPrefix : shards xs <+: plan
  undecided : ∀ x ∈ xs.dropLast, x.decides mapper = false
  complete : (∀ x ∈ xs, x.decides mapper = false) → shards xs = plan

theorem eq_or_mem_dropLast {x y : Exchange} {xs : List Exchange} (h : y ∈ (x :: xs).dropLast) :
    y = x ∨ y ∈ xs.dropLast := by
  cases xs with
  | nil => cases h
  | cons z zs =>
    rw [List.dropLast_cons_of_ne_nil (List.cons_ne_nil z zs)] at h
    exact List.mem_cons.mp h

/-- Exchanges up to the first one that decides a read are those of a walk. -/
theorem walk_untilDecided (mapper : RowMapper α) (xs : List Exchange) :
    Walk mapper (shards xs) (untilDecided mapper xs) := by
  induction xs with
  | nil => exact ⟨List.prefix_rfl, by simp [untilDecided], fun _ => rfl⟩
  | cons x rest ih =>
    rw [untilDecided]
    split_ifs with hx
    · refine ⟨⟨shards rest, rfl⟩, by simp, fun h => ?_⟩
      rw [h x List.mem_cons_self] at hx
      cases hx
    · refine ⟨List.cons_prefix_cons.mpr ⟨rfl, ih.isPrefix⟩, fun y hy => ?_, fun h => ?_⟩
      · rcases eq_or_mem_dropLast hy with rfl | hy
        · simpa using hx
        · exact ih.undecided y hy
      · exact congrArg (x.statement.shard :: ·)
          (ih.complete fun y hy => h y (List.mem_cons_of_mem _ hy))

end Exchange

/-! ## Exchanges of a plan -/

/-- The exchanges that an execution adds, given its plan: none without one, the only one
    of a plan for one shard, and of a plan for several all of them or those of a walk. -/
theorem Engine.serve_exchanges [Backend σ] (e : Engine σ α) (q : Query α) {mode : Mode}
    (plan : Except QueryError Plan)
    (hm : ∀ p, plan = .ok p → mode.merges = true ∨ ∃ shard statement, p = .single shard statement) :
    ∃ xs, (e.serve q mode plan).2.connection.exchanges = e.connection.exchanges ++ xs ∧
      (∀ error, plan = .error error → (e.serve q mode plan).1 = .error error ∧ xs = []) ∧
      (∀ shard statement, plan = .ok (.single shard statement) →
        Exchange.shards xs = [statement.shard]) ∧
      (∀ shards statements, plan = .ok (.fanOut shards statements) →
        if mode = .one ∧ q.options.firstPresent = .sequential then
          Exchange.Walk q.mapper (statements.map BoundStatement.shard) xs
        else Exchange.shards xs = statements.map BoundStatement.shard) := by
  match plan with
  | .error error =>
    obtain ⟨hresult, hconnection, -, -, -⟩ := e.serve_rejected q mode error
    refine ⟨[], by rw [hconnection, List.append_nil], ?_, by simp, by simp⟩
    rintro _ ⟨⟩
    exact ⟨hresult, rfl⟩
  | .ok (.single shard statement) =>
    refine ⟨_, (e.serve_single q mode shard statement).2, by simp, ?_, by simp⟩
    rintro _ _ ⟨⟩
    exact Exchange.shards_trace _ _
  | .ok (.fanOut shards statements) =>
    have hmerges : mode.merges = true := by
      rcases hm _ rfl with hm | ⟨_, _, hp⟩
      · exact hm
      · cases hp
    refine ⟨_, (e.serve_fanOut q hmerges shards statements).2, by simp, by simp, ?_⟩
    rintro _ _ ⟨⟩
    have hwalks : q.walks mode (.fanOut shards statements) = true ↔
        mode = .one ∧ q.options.firstPresent = .sequential := by
      simp [Query.walks]
    rw [← Exchange.shards_trace e.connection.store statements]
    by_cases h : mode = .one ∧ q.options.firstPresent = .sequential
    · rw [if_pos h, if_pos (hwalks.mpr h)]
      exact Exchange.walk_untilDecided _ _
    · rw [if_neg h, if_neg (mt hwalks.mp h)]

/-! ## Rules of selection -/

/-- The result of an execution and the exchanges that it adds, given what the source
    answers. Each rule says what happens where no earlier one applies. The last two
    ask for tables of the shards of the state; a state of as many shards as there are
    tables has them all. -/
structure Binder.Dispatch (b : Binder α) (mode : Mode) (state : Except QueryError RotationState)
    (result : Except QueryError (Answer α)) (xs : List Exchange) : Prop where
  only : b.query.numShards = 1 → Exchange.shards xs = [.first]
  pinned : b.query.numShards ≠ 1 → ∀ shard, b.pinned = some shard →
    Exchange.shards xs = [if shard = .noRotation then .first else shard]
  unmerged : b.query.numShards ≠ 1 → b.pinned = none → b.query.upsert = false →
    mode.merges = false → result = .error (.unsupported (.spansShards b.query.text)) ∧ xs = []
  current : b.query.numShards ≠ 1 → b.pinned = none → b.query.upsert = true →
    ∀ s, state = .ok s → s.current.addresses b.query.numShards = true →
      Exchange.shards xs = [s.current]
  window : b.query.numShards ≠ 1 → b.pinned = none → b.query.upsert = false →
    mode.merges = true → ∀ s plan, state = .ok s → b.query.resolve s = .ok plan →
      (∀ shard ∈ plan, shard.addresses b.query.numShards = true) →
      plan <+: s.ordered ∧ plan.Nodup ∧
      if mode = .one ∧ b.query.options.firstPresent = .sequential then
        Exchange.Walk b.query.mapper plan xs
      else Exchange.shards xs = plan

namespace Client

variable [Backend σ]

/-- Executions follow the rules of selection. -/
theorem exists_dispatch (c : Client σ α) {b : Binder α} (hb : b.Sound) (mode : Mode) :
    ∃ xs, (c.execute b mode).2.engine.connection.exchanges =
        c.engine.connection.exchanges ++ xs ∧
      b.Dispatch mode (b.query.source.stateAt (c.now b.query)) (c.execute b mode).1 xs := by
  obtain ⟨hresult, hengine⟩ := c.execute_eq_serve b mode
  obtain ⟨xs, hxs, hnone, hsingle, hfan⟩ := c.engine.serve_exchanges b.query
    (b.plan mode (b.query.source.stateAt (c.now b.query)))
    fun _ => Binder.merges_or_single_of_plan
  refine ⟨xs, by rw [hengine, hxs], ?_⟩
  rw [hresult]
  -- each rule fixes the route, the route the plan, and the plan what is sent
  generalize hstate : b.query.source.stateAt (c.now b.query) = state at *
  constructor
  case only =>
    intro h1
    obtain ⟨statement, hshard, hplan⟩ :=
      Binder.plan_of_route_shard hb (Binder.route_of_only h1) mode
    rw [hsingle _ _ (hplan state), hshard]
    rfl
  case pinned =>
    intro h1 shard hp
    obtain ⟨statement, hshard, hplan⟩ :=
      Binder.plan_of_route_shard hb (Binder.route_of_pinned h1 hp) mode
    rw [hsingle _ _ (hplan state), hshard]
  case unmerged =>
    intro h1 hp hu hm
    exact hnone _ (Binder.plan_of_not_merges (Binder.route_of_read h1 hp hu) hm state)
  case current =>
    rintro h1 hp hu s rfl hs
    obtain ⟨statement, hshard, hplan⟩ :=
      Binder.plan_of_route_current hb (Binder.route_of_upsert h1 hp hu) mode hs
    rw [hsingle _ _ hplan, hshard]
  case window =>
    rintro h1 hp hu hm s plan rfl hres hs
    obtain ⟨statements, hshards, hplan⟩ :=
      Binder.plan_of_route_window hb (Binder.route_of_read h1 hp hu) hm hres hs
    refine ⟨Resolver.plan_isPrefix hres, Resolver.plan_nodup hres, ?_⟩
    rw [← hshards]
    exact hfan _ _ hplan

/-- The executions have the same result and leave the same engine: its exchanges with the
    store, its counters, its log and its tasks. -/
def SameOutcome (r r' : Except QueryError (Answer α) × Client σ α) : Prop :=
  r'.1 = r.1 ∧ r'.2.engine = r.2.engine

/-- Executions for queries that are alike have the same outcome on the same engine if
    they have the same plan. -/
theorem sameOutcome_execute {c c' : Client σ α} (hc : c'.engine = c.engine) {b : Binder α}
    {q' : Query α} (h : b.query.Alike q') (id : Nat) (mode : Mode)
    (hplan : (b.onto id q').plan mode (q'.source.stateAt (c'.now q')) =
      b.plan mode (b.query.source.stateAt (c.now b.query))) :
    SameOutcome (c.execute b mode) (c'.execute (b.onto id q') mode) := by
  have hserve := c.engine.serve_congr h.text h.mapper h.firstPresent mode
    ((b.onto id q').plan mode (q'.source.stateAt (c'.now q')))
  obtain ⟨hresult, hengine⟩ := c.execute_eq_serve b mode
  obtain ⟨hresult', hengine'⟩ := c'.execute_eq_serve (b.onto id q') mode
  rw [SameOutcome, hresult, hresult', hengine, hengine', hc, ← hplan, ← hserve]
  exact ⟨rfl, rfl⟩

end Client

/-! ## Executions of built queries -/

namespace Definition

/-- Whatever calls are made on a binder of a query that was built, its executions follow
    the rules of selection, in each mode. For a single table or a pinned shard the
    outcome is the same whatever the sources, their states and the policies are, and
    for an upsert whatever the policies are. -/
theorem dispatch_of_build [Backend σ] {d : Definition α} {q : Query α} (h : d.build = .ok q)
    {b : Binder α} {id : Nat} {calls : List Binder.Call}
    (hb : (Binder.fresh id q).after calls = b) (mode : Mode) (c : Client σ α) :
    (∃ xs, (c.execute b mode).2.engine.connection.exchanges =
        c.engine.connection.exchanges ++ xs ∧
      b.Dispatch mode (q.source.stateAt (c.now q)) (c.execute b mode).1 xs) ∧
    (∀ (q' : Query α) (id' : Nat) (c' : Client σ α), q.Alike q' → c'.engine = c.engine →
      (q.numShards = 1 ∨ b.pinned ≠ none →
        Client.SameOutcome (c.execute b mode)
          (c'.execute ((Binder.fresh id' q').after calls) mode)) ∧
      (q.upsert = true → q'.source.stateAt (c'.now q') = q.source.stateAt (c.now q) →
        Client.SameOutcome (c.execute b mode)
          (c'.execute ((Binder.fresh id' q').after calls) mode))) := by
  obtain ⟨rfl, hsound⟩ :=
    hb ▸ Binder.sound_after (Binder.sound_fresh (build_sound h) id) calls
  refine ⟨c.exists_dispatch hsound mode, fun q' id' c' halike hc => ?_⟩
  -- the binder of the other query holds what this one holds
  rw [Binder.after_fresh halike id id', hb]
  refine ⟨fun hcases => ?_, fun hu hstate => ?_⟩
  · have hr : ∃ shard, b.route = .shard shard := by
      rcases b.route_cases with ⟨-, hr⟩ | ⟨-, shard, -, hr⟩ | ⟨h1, hp, -⟩ | ⟨h1, hp, -⟩
      · exact ⟨_, hr⟩
      · exact ⟨_, hr⟩
      · exact absurd hp (hcases.resolve_left h1)
      · exact absurd hp (hcases.resolve_left h1)
    exact Client.sameOutcome_execute hc halike id' mode
      (Binder.plan_onto halike id' mode (Or.inl hr))
  · have hr : (∃ shard, b.route = .shard shard) ∨ b.route = .current := by
      rcases b.route_cases with ⟨-, hr⟩ | ⟨-, shard, -, hr⟩ | ⟨-, -, -, hr⟩ | ⟨-, -, hread, -⟩
      · exact Or.inl ⟨_, hr⟩
      · exact Or.inl ⟨_, hr⟩
      · exact Or.inr hr
      · rw [hu] at hread
        cases hread
    exact Client.sameOutcome_execute hc halike id' mode
      (Binder.plan_onto halike id' mode (hr.imp_right (⟨·, hstate⟩)))

/-- A read of the first event of three hours, for the newest one to begin with. -/
def newestEvent : Definition (List Value) :=
  { text := "SELECT * FROM events", mapper := { decodeMany := fun rows => .ok rows.rows }
    statements := some [⟨"SELECT * FROM events_0", 0⟩, ⟨"SELECT * FROM events_1", 0⟩,
      ⟨"SELECT * FROM events_2", 0⟩]
    rotation := Resolver.hourly, options := { range := .fixed 3 } }

/-- A client in the third hour, which has no events so far. -/
def thirdHour : Client ScriptedStore (List Value) :=
  .fresh ⟨[.rows ⟨["key"], [[.text "a"]]⟩, .rows ⟨["key"], [[.text "b"]]⟩, .rows .empty]⟩
    ⟨10000000000000, by decide, by decide⟩

/-- The read goes back to the second hour and no further. -/
theorem dispatch_of_build_newestEvent :
    ∃ q b xs, newestEvent.build = .ok q ∧
      (Binder.fresh 0 q).after [.adjust (.consistency .quorum)] = b ∧
      (thirdHour.execute b .one).2.engine.connection.exchanges = xs ∧
      Exchange.Walk q.mapper [⟨2⟩, ⟨1⟩, ⟨0⟩] xs ∧ Exchange.shards xs = [⟨2⟩, ⟨1⟩] := by
  obtain ⟨xs, hxs, hdispatch⟩ := (dispatch_of_build (d := newestEvent) rfl
    (b := (Binder.fresh 0 _).after [.adjust (.consistency .quorum)]) rfl .one thirdHour).1
  refine ⟨_, _, xs, rfl, rfl, hxs, ?_, (congrArg Exchange.shards hxs).symm⟩
  exact (hdispatch.window (by decide) rfl rfl rfl _ _ rfl rfl (by decide)).2.2

end Definition

end RotatedShards
