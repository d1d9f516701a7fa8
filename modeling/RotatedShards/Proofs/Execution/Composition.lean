import RotatedShards.Proofs.Execution.Counters
import RotatedShards.Proofs.Execution.Settlement
import RotatedShards.Proofs.Query.Planning
import RotatedShards.Proofs.Store.Tables
import RotatedShards.Store.Event

/-!
# Composition of reads

A read that spans the shards in range is composed of the reads pinned to each of them, in
the order of the plan and with their failures: all objects come one after the other; a
failure of the store is reported for the first shard that has one, before anything is
decoded; and otherwise rows that cannot be decoded are, again those of the first such shard.

Results:
* `Exchange.mapM_objects`: what is decoded of exchanges with rows.
* `Gathering.result_of_objects`, `Gathering.result_of_failed`, `Gathering.result_of_undecoded`:
  the results of gatherings that decode everything.
* `Client.composed`: how a read that spans shards is composed of pinned ones.
* `Definition.composed_of_build`: the same for every binder of a built query.
-/

namespace RotatedShards

variable {σ α : Type}

/-- The mode decodes the rows of all shards. -/
def Mode.decodesAll : Mode → Bool
  | .all | .atMostOne => true
  | _ => false

theorem Mode.decodesAll_cases {mode : Mode} (h : mode.decodesAll = true) :
    mode = .all ∨ mode = .atMostOne := by
  cases mode with
  | sync => cases h
  | async => cases h
  | one => cases h
  | all => exact Or.inl rfl
  | atMostOne => exact Or.inr rfl

/-! ## Objects of an exchange -/

namespace Exchange

/-- The objects that an exchange yields, or why there are none. -/
def objects (mapper : RowMapper α) (x : Exchange) : Except QueryError (List α) :=
  match x.outcome with
  | .rows rows => mapper.decodeMany rows
  | .failed fault => .error (.backend fault)
  | .crashed => .error (.worker .panicked)

theorem isFailure_of_objects {mapper : RowMapper α} {x : Exchange} {items : List α}
    (h : x.objects mapper = .ok items) : x.outcome.isFailure = false := by
  unfold objects at h
  cases hx : x.outcome with
  | rows rows => rfl
  | failed fault =>
    rw [hx] at h
    cases h
  | crashed => rfl

/-- What is decoded of exchanges that all have rows are their objects. -/
theorem mapM_objects (mapper : RowMapper α) {xs : List Exchange} {rows : List RawRows}
    (h : xs.map outcome = rows.map .rows) :
    xs.mapM (objects mapper) = rows.mapM mapper.decodeMany := by
  induction xs generalizing rows with
  | nil =>
    rw [List.map_nil, eq_comm, List.map_eq_nil_iff] at h
    rw [h]
    rfl
  | cons x rest ih =>
    cases rows with
    | nil => cases h
    | cons first rows =>
      rw [List.map_cons, List.map_cons, List.cons.injEq] at h
      have hx : x.objects mapper = mapper.decodeMany first := by rw [objects, h.1]
      rw [List.mapM_cons, List.mapM_cons, hx, ih h.2]

end Exchange

/-! ## Gatherings that decode everything -/

theorem Merging.apply_eq_error_of_mapM {merging : Merging}
    (hm : merging = .all ∨ merging = .atMostOne) {mapper : RowMapper α} {rows : List RawRows}
    {e : QueryError} (h : rows.mapM mapper.decodeMany = .error e) (query : String) :
    merging.apply mapper query rows = .error e := by
  rcases hm with rfl | rfl
  · simp only [apply, h]
    rfl
  · simp only [apply, h]
    rfl

namespace Gathering

variable {g : Gathering α} {xs : List Exchange}

theorem failures_settle (hcrash : g.outcomes.any Outcome.isCrash = false) :
    g.settle.failures = g.outcomes.countP Outcome.isFailure := by
  rw [settle, if_neg (by rw [hcrash]; exact Bool.false_ne_true)]

/-- If no statement fails, there are the rows of all shards. -/
theorem exists_rows (hxs : g.outcomes = xs.map Exchange.outcome)
    (hcrash : g.outcomes.any Outcome.isCrash = false)
    (hfail : ∀ x ∈ xs, x.outcome.isFailure = false) :
    ∃ rows : List RawRows, xs.map Exchange.outcome = rows.map .rows ∧
      g.settle.result = g.merging.apply g.mapper g.query rows := by
  rcases g.settle_cases with ⟨h, -⟩ | ⟨-, fault, hfind, -⟩ | ⟨rows, hrows, hs⟩
  · rw [hcrash] at h
    cases h
  · rw [hxs] at hfind
    obtain ⟨x, hx, hfault⟩ := List.mem_map.mp (List.mem_of_find?_eq_some hfind)
    have := hfail x hx
    rw [hfault] at this
    cases this
  · exact ⟨rows, hxs.symm.trans hrows, by rw [hs]⟩

/-- All objects come one after the other. -/
theorem result_of_objects (hxs : g.outcomes = xs.map Exchange.outcome)
    (hcrash : g.outcomes.any Outcome.isCrash = false) (hg : g.merging = .all)
    {parts : List (List α)} (h : xs.mapM (Exchange.objects g.mapper) = .ok parts) :
    g.settle.result = .ok (.items parts.flatten) := by
  have hfail : ∀ x ∈ xs, x.outcome.isFailure = false := by
    intro x hx
    have hmem := List.mem_map_of_mem (f := Exchange.objects g.mapper) hx
    rw [map_eq_map_ok_of_mapM h] at hmem
    obtain ⟨items, -, hitems⟩ := List.mem_map.mp hmem
    exact Exchange.isFailure_of_objects hitems.symm
  obtain ⟨rows, hrows, hresult⟩ := exists_rows hxs hcrash hfail
  rw [Exchange.mapM_objects g.mapper hrows] at h
  rw [hresult, hg, Merging.apply, h]
  rfl

/-- The first failure of a statement is reported, whatever the rows of the others are. -/
theorem result_of_failed (hxs : g.outcomes = xs.map Exchange.outcome)
    (hcrash : g.outcomes.any Outcome.isCrash = false) {before after : List Exchange}
    {x : Exchange} (hsplit : xs = before ++ x :: after)
    (hbefore : ∀ y ∈ before, y.outcome.isFailure = false) {fault : BackendFault}
    (hx : x.outcome = .failed fault) : g.settle.result = .error (.backend fault) := by
  have hnone : (before.map Exchange.outcome).find? Outcome.isFailure = none := by
    rw [List.find?_eq_none]
    intro o ho
    obtain ⟨y, hy, rfl⟩ := List.mem_map.mp ho
    rw [hbefore y hy]
    exact Bool.false_ne_true
  have hfirst : g.outcomes.find? Outcome.isFailure = some (.failed fault) := by
    rw [hxs, hsplit, List.map_append, List.find?_append, hnone, List.map_cons, hx]
    rfl
  rcases g.settle_cases with ⟨h, -⟩ | ⟨-, fault', hfind, hs⟩ | ⟨rows, hrows, -⟩
  · rw [hcrash] at h
    cases h
  · rw [hfirst] at hfind
    cases hfind
    rw [hs]
  · have hmem := List.mem_of_find?_eq_some hfirst
    rw [hrows] at hmem
    obtain ⟨r, -, hr⟩ := List.mem_map.mp hmem
    cases hr

/-- If no statement fails, the first rows that cannot be decoded are reported. -/
theorem result_of_undecoded (hxs : g.outcomes = xs.map Exchange.outcome)
    (hcrash : g.outcomes.any Outcome.isCrash = false)
    (hg : g.merging = .all ∨ g.merging = .atMostOne)
    (hfail : ∀ x ∈ xs, x.outcome.isFailure = false) {e : QueryError}
    (h : xs.mapM (Exchange.objects g.mapper) = .error e) : g.settle.result = .error e := by
  obtain ⟨rows, hrows, hresult⟩ := exists_rows hxs hcrash hfail
  rw [Exchange.mapM_objects g.mapper hrows] at h
  rw [hresult, Merging.apply_eq_error_of_mapM hg h]

/-- A gathering of one exchange results in its objects. -/
theorem result_of_singleton {x : Exchange} (hxs : g.outcomes = [x.outcome])
    (hg : g.merging = .all) : g.settle.result = (x.objects g.mapper).map .items := by
  unfold Exchange.objects
  cases hx : x.outcome with
  | rows rows =>
    have hrows : g.outcomes = [rows].map .rows := by rw [hxs, hx]; rfl
    rw [settle_of_rows hrows, hg]
    simp only [Merging.apply, List.mapM_cons, List.mapM_nil]
    cases g.mapper.decodeMany rows with
    | error e => rfl
    | ok items =>
      exact congrArg (fun found => Except.ok (Answer.items found)) (List.append_nil items)
  | failed fault =>
    rw [hx] at hxs
    simp only [settle, hxs]
    rfl
  | crashed =>
    rw [hx] at hxs
    simp only [settle, hxs]
    rfl

end Gathering

/-! ## Pinned reads -/

namespace Binder

/-- The same bindings, pinned to a shard. -/
def pinnedAt (b : Binder α) (shard : ShardId) : Binder α := { b with pinned := some shard }

theorem adjust_pin {b : Binder α} (hb : b.executed = false) {shard : ShardId}
    (hs : shard.addresses b.query.numShards = true) :
    b.adjust (.pin shard) = .ok (b.pinnedAt shard) := adjust_eq_ok_iff.mpr ⟨hb, .pin hs⟩

theorem plan_pinnedAt {b : Binder α} (h1 : b.query.numShards ≠ 1) {shard : ShardId}
    {statement : BoundStatement} (h : b.materialize shard = .ok statement) (mode : Mode)
    (state : Except QueryError RotationState) :
    (b.pinnedAt shard).plan mode state = .ok (.single shard statement) := by
  have hr : (b.pinnedAt shard).route = .shard shard :=
    route_of_pinned (b := b.pinnedAt shard) h1 rfl
  unfold plan
  simp only [hr]
  exact map_eq_ok_iff.mpr ⟨statement, h, rfl⟩

end Binder

/-- A read pinned to a shard has the objects of the exchange with it. -/
theorem Client.execute_pinnedAt [Backend σ] (c : Client σ α) {b : Binder α}
    (h1 : b.query.numShards ≠ 1) {shard : ShardId} {statement : BoundStatement}
    (h : b.materialize shard = .ok statement) :
    (c.execute (b.pinnedAt shard) .all).1 =
        ((Exchange.on c.engine.connection.store statement).objects b.query.mapper).map .items ∧
      (c.execute (b.pinnedAt shard) .all).2.engine.connection.exchanges =
        c.engine.connection.exchanges ++ [Exchange.on c.engine.connection.store statement] := by
  obtain ⟨hresult, hexchanges, -, -⟩ := c.execute_gathers (b.pinnedAt shard)
    (Binder.plan_pinnedAt h1 h .all _) (by decide) rfl
  exact ⟨hresult.trans (Gathering.result_of_singleton rfl rfl), hexchanges⟩

/-! ## Reads that span shards -/

/-- What a binder makes of each shard of a plan: a statement for its table. -/
structure Binder.Statements (b : Binder α) (plan : List ShardId) (st : ShardId → BoundStatement) :
    Prop where
  nodup : plan.Nodup
  materialize : ∀ s ∈ plan, b.materialize s = .ok (st s)
  shard : ∀ s ∈ plan, (st s).shard = s
  addresses : ∀ s ∈ plan, s.addresses b.query.numShards = true
  ne_noRotation : ∀ s ∈ plan, s ≠ .noRotation

namespace Binder.Statements

variable {b : Binder α} {plan : List ShardId} {st : ShardId → BoundStatement}

theorem exists_of_sound {b : Binder α} (hb : b.Sound) {state : RotationState} {plan : List ShardId}
    (hres : b.query.resolve state = .ok plan)
    (hs : ∀ s ∈ plan, s.addresses b.query.numShards = true) : ∃ st, b.Statements plan st := by
  have hne : ∀ s ∈ plan, s ≠ .noRotation := fun s h =>
    state.ne_noRotation ((Resolver.plan_isPrefix hres).subset h)
  have hst : ∀ s ∈ plan, ∃ statement, b.materialize s = .ok statement := fun s h =>
    exists_materialize hb (hs s h)
  have : Nonempty BoundStatement := ⟨{ shard := .first, text := "", values := [] }⟩
  choose! st hst using hst
  refine ⟨st, Resolver.plan_nodup hres, hst, fun s h => ?_, hs, hne⟩
  rw [shard_of_materialize (hst s h), if_neg (hne s h)]

theorem plan_eq (h : b.Statements plan st) (hr : b.route = .window) {mode : Mode}
    (hm : mode.merges = true) {state : RotationState} (hres : b.query.resolve state = .ok plan) :
    b.plan mode (.ok state) = .ok (.fanOut plan (plan.map st)) := by
  rw [plan_window_eq hr hm, hres]
  exact map_eq_ok_iff.mpr ⟨_, mapM_eq_ok_map h.materialize, rfl⟩

theorem addresses_shard (h : b.Statements plan st) {s : ShardId} (hs : s ∈ plan) :
    (st s).shard.addresses b.query.numShards = true := by
  rw [h.shard s hs]
  exact h.addresses s hs

/-- In a store of separate tables each statement is answered as if it were the only one. -/
theorem trace_eq [Backend σ] [Tabled σ] (h : b.Statements plan st) (store : σ) :
    trace store (plan.map st) = plan.map fun s => Exchange.on store (st s) := by
  rw [trace_of_pairwise_apart, List.map_map]
  · rfl
  · refine List.pairwise_map.mpr (h.nodup.imp_of_mem fun {s t} hs ht hne => ?_)
    refine BoundStatement.apart_of_ne (h.addresses_shard ht) ?_ (h.addresses_shard hs) ?_ ?_
    · rw [h.shard t ht]
      exact h.ne_noRotation t ht
    · rw [h.shard s hs]
      exact h.ne_noRotation s hs
    · rw [h.shard s hs, h.shard t ht]
      exact hne.symm

end Binder.Statements

namespace Client

/-- How a read that spans the shards of a plan is composed of the reads pinned to each of
    them, given the exchange with the store that each of these adds. The read for at most
    one object has the same failures as the one for all. -/
structure Composed [Backend σ] (c : Client σ α) (b : Binder α) (plan : List ShardId)
    (x : ShardId → Exchange) : Prop where
  nodup : plan.Nodup
  pinned : ∀ s ∈ plan, (x s).statement.shard = s ∧
    (c.execute (b.pinnedAt s) .all).2.engine.connection.exchanges =
      c.engine.connection.exchanges ++ [x s]
  exchanges : ∀ mode : Mode, mode.decodesAll = true →
    (c.execute b mode).2.engine.connection.exchanges =
      c.engine.connection.exchanges ++ plan.map x
  failures : ∀ mode : Mode, mode.decodesAll = true →
    (c.execute b mode).2.engine.stats.failures =
      c.engine.stats.failures +
        Gathering.failuresOf (c.engine.background (c.execute b mode).2.engine.time) +
        plan.countP fun s => (x s).outcome.isFailure
  found : ∀ parts : List (List α),
    List.Forall₂ (fun s items => (c.execute (b.pinnedAt s) .all).1 = .ok (.items items))
      plan parts →
    (c.execute b .all).1 = .ok (.items parts.flatten)
  failed : ∀ before s after fault, plan = before ++ s :: after →
    (∀ t ∈ before, (x t).outcome.isFailure = false) → (x s).outcome = .failed fault →
    (c.execute (b.pinnedAt s) .all).1 = .error (.backend fault) ∧
      ∀ mode : Mode, mode.decodesAll = true → (c.execute b mode).1 = .error (.backend fault)
  undecoded : (∀ s ∈ plan, (x s).outcome.isFailure = false) →
    ∀ before s after e, plan = before ++ s :: after →
    (∀ t ∈ before, ∃ items, (c.execute (b.pinnedAt t) .all).1 = .ok (.items items)) →
    (c.execute (b.pinnedAt s) .all).1 = .error e →
      ∀ mode : Mode, mode.decodesAll = true → (c.execute b mode).1 = .error e

section Composition

variable [Backend σ] [Tabled σ]

/-- A read of all shards in range results in the gathering of the exchanges with them, each
    of which is as if it were the only one. -/
theorem execute_statements (c : Client σ α) {b : Binder α} {plan : List ShardId}
    {st : ShardId → BoundStatement} (h : b.Statements plan st) (hr : b.route = .window)
    {state : RotationState} (hstate : b.query.source.stateAt (c.now b.query) = .ok state)
    (hres : b.query.resolve state = .ok plan) {mode : Mode} (hmode : mode.decodesAll = true) :
    ∃ g : Gathering α, (g.mapper = b.query.mapper ∧
        g.outcomes =
          (plan.map fun s => Exchange.on c.engine.connection.store (st s)).map Exchange.outcome ∧
        g.outcomes.any Outcome.isCrash = false ∧
        (g.merging = .all ∧ mode = .all ∨ g.merging = .atMostOne ∧ mode = .atMostOne)) ∧
      (c.execute b mode).1 = g.settle.result ∧
      (c.execute b mode).2.engine.connection.exchanges =
        c.engine.connection.exchanges ++
          plan.map (fun s => Exchange.on c.engine.connection.store (st s)) ∧
      (c.execute b mode).2.engine.stats.failures =
        c.engine.stats.failures +
          Gathering.failuresOf (c.engine.background (c.execute b mode).2.engine.time) +
          g.settle.failures := by
  have hmodes := Mode.decodesAll_cases hmode
  have hplan : b.plan mode (b.query.source.stateAt (c.now b.query)) =
      .ok (.fanOut plan (plan.map st)) := by
    rw [hstate]
    exact h.plan_eq hr (by rcases hmodes with rfl | rfl <;> rfl) hres
  obtain ⟨hresult, hexchanges, hfailures, -⟩ := c.execute_gathers b hplan
    (by rintro rfl; cases hmode) (by rcases hmodes with rfl | rfl <;> rfl)
  have houtcomes := c.engine.outcomes_gathering b.query mode (.fanOut plan (plan.map st))
  rw [Plan.statements, h.trace_eq] at houtcomes hexchanges
  refine ⟨_, ⟨rfl, houtcomes, ?_, ?_⟩, hresult, hexchanges, hfailures⟩
  · rw [houtcomes, List.any_eq_false]
    intro o ho
    obtain ⟨x, hx, rfl⟩ := List.mem_map.mp ho
    obtain ⟨s, -, rfl⟩ := List.mem_map.mp hx
    exact ne_true_of_eq_false (Tabled.not_isCrash (st s) c.engine.connection.store)
  · rcases hmodes with rfl | rfl
    · exact Or.inl ⟨rfl, rfl⟩
    · exact Or.inr ⟨rfl, rfl⟩

/-- A read of all shards in range is composed of the reads pinned to each of them. -/
theorem composed (c : Client σ α) {b : Binder α} {plan : List ShardId}
    {st : ShardId → BoundStatement} (h : b.Statements plan st) (hr : b.route = .window)
    {state : RotationState} (hstate : b.query.source.stateAt (c.now b.query) = .ok state)
    (hres : b.query.resolve state = .ok plan) :
    c.Composed b plan fun s => Exchange.on c.engine.connection.store (st s) := by
  have h1 := (Binder.of_route_window hr).1
  have hpinned := fun s hs => c.execute_pinnedAt h1 (h.materialize s hs)
  have hread := fun (mode : Mode) (hmode : mode.decodesAll = true) =>
    c.execute_statements h hr hstate hres hmode
  have hitems : ∀ s ∈ plan, ∀ items, (c.execute (b.pinnedAt s) .all).1 = .ok (.items items) →
      (Exchange.on c.engine.connection.store (st s)).objects b.query.mapper = .ok items := by
    intro s hs items hi
    rw [(hpinned s hs).1] at hi
    obtain ⟨items', hi', heq⟩ := map_eq_ok_iff.mp hi
    cases heq
    exact hi'
  constructor
  case nodup => exact h.nodup
  case pinned => exact fun s hs => ⟨h.shard s hs, (hpinned s hs).2⟩
  case exchanges =>
    intro mode hmode
    obtain ⟨g, -, -, hexchanges, -⟩ := hread mode hmode
    exact hexchanges
  case failures =>
    intro mode hmode
    obtain ⟨g, ⟨-, houtcomes, hcrash, -⟩, -, -, hfailures⟩ := hread mode hmode
    rw [hfailures, Gathering.failures_settle hcrash, houtcomes, List.countP_map, List.countP_map]
    rfl
  case found =>
    intro parts hparts
    obtain ⟨g, ⟨hmapper, houtcomes, hcrash, ⟨hg, -⟩ | ⟨-, hmode⟩⟩, hresult, -, -⟩ := hread .all rfl
    · rw [hresult]
      refine Gathering.result_of_objects houtcomes hcrash hg ?_
      rw [hmapper, List.mapM_map, mapM_eq_ok_iff]
      exact ((List.forall₂_and_left plan parts).mpr ⟨hitems, hparts⟩).imp
        fun s items ⟨hs, hi⟩ => hs items hi
    · cases hmode
  case failed =>
    intro before s after fault hsplit hbefore hs
    constructor
    · rw [(hpinned s (hsplit ▸ List.mem_append_right _ List.mem_cons_self)).1, Exchange.objects, hs]
      rfl
    intro mode hmode
    obtain ⟨g, ⟨-, houtcomes, hcrash, -⟩, hresult, -, -⟩ := hread mode hmode
    rw [hresult]
    rw [hsplit, List.map_append, List.map_cons] at houtcomes
    refine Gathering.result_of_failed houtcomes hcrash rfl ?_ hs
    exact List.forall_mem_map.mpr hbefore
  case undecoded =>
    intro hfail before s after e hsplit hbefore hs mode hmode
    obtain ⟨g, ⟨hmapper, houtcomes, hcrash, hg⟩, hresult, -, -⟩ := hread mode hmode
    rw [hresult]
    refine Gathering.result_of_undecoded houtcomes hcrash (hg.imp And.left And.left) ?_ ?_
    · exact List.forall_mem_map.mpr hfail
    · rw [hmapper, List.mapM_map, hsplit]
      refine mapM_append_eq_error (fun t ht => ?_) ?_
      · obtain ⟨items, hi⟩ := hbefore t ht
        exact ⟨items, hitems t (hsplit ▸ List.mem_append_left _ ht) items hi⟩
      · rw [(hpinned s (hsplit ▸ List.mem_append_right _ List.mem_cons_self)).1] at hs
        exact map_eq_error_iff.mp hs

end Composition

end Client

/-! ## Executions of built queries -/

namespace Definition

/-- Whatever calls are made on a binder of a query for several shards that does not write,
    unless they pin it: an execution that reads all shards in range is composed of the
    executions of the same bindings pinned to each of these shards. They need tables for
    that, since no binder can be pinned to a shard without one. -/
theorem composed_of_build [Backend σ] [Tabled σ] {d : Definition α} {q : Query α}
    (h : d.build = .ok q) (hcount : 1 < q.numShards) (hread : q.upsert = false) {b : Binder α}
    {id : Nat} {calls : List Binder.Call} (hb : (Binder.fresh id q).after calls = b)
    (hp : b.pinned = none) (c : Client σ α) {state : RotationState}
    (hstate : q.source.stateAt (c.now q) = .ok state) {plan : List ShardId}
    (hres : q.resolve state = .ok plan) (hs : ∀ s ∈ plan, s.addresses q.numShards = true) :
    (b.executed = false → ∀ s ∈ plan, b.adjust (.pin s) = .ok (b.pinnedAt s)) ∧
      ∃ x, c.Composed b plan x := by
  obtain ⟨rfl, hsound⟩ :=
    hb ▸ Binder.sound_after (Binder.sound_fresh (build_sound h) id) calls
  refine ⟨fun hexecuted s hmem => Binder.adjust_pin hexecuted (hs s hmem), ?_⟩
  obtain ⟨st, hst⟩ := Binder.Statements.exists_of_sound hsound hres hs
  exact ⟨_, c.composed hst (Binder.route_of_read (by omega) hp hread) hstate hres⟩

/-- A read of the payloads of three hours, none of which may be empty. -/
def payloads : Definition String :=
  { text := "SELECT key, payload FROM events"
    mapper := { decodeMany := fun r => r.rows.mapM fun row => do
      let payload ← Event.textAt row 1
      if payload = "" then .error (.backend (.reported "empty payload")) else .ok payload }
    statements := some [⟨"SELECT key, payload FROM events_0", 0⟩,
      ⟨"SELECT key, payload FROM events_1", 0⟩, ⟨"SELECT key, payload FROM events_2", 0⟩]
    rotation := Resolver.hourly, options := { range := .fixed 3 } }

/-- The read of payloads, ready to be bound. -/
def payloadRead : Query String := payloads.build.toOption.get rfl

/-- A client in the third hour, which has an event without a payload, while the table of
    the second hour is lost. -/
def lostSecondHour : Client MemoryStore String :=
  .fresh ⟨[{ events := [⟨"a", "1"⟩] }, { failure := some "table lost" },
    { events := [⟨"c", ""⟩] }]⟩ (.ofMillis 10000000)

/-- The lost table is reported, and counted once, although there is an empty payload in the
    one before it. -/
theorem composed_of_build_lostSecondHour :
    payloads.build = .ok payloadRead ∧
      (lostSecondHour.execute ((Binder.fresh 0 payloadRead).pinnedAt ⟨2⟩) .all).1 =
        .error (.backend (.reported "empty payload")) ∧
      (lostSecondHour.execute (.fresh 0 payloadRead) .all).1 =
        .error (.backend (.reported "table lost")) ∧
      (lostSecondHour.execute (.fresh 0 payloadRead) .all).2.engine.stats.failures = 1 := by
  have hres : payloadRead.source.stateAt (lostSecondHour.now payloadRead) >>= payloadRead.resolve =
      .ok [⟨2⟩, ⟨1⟩, ⟨0⟩] := rfl
  obtain ⟨state, hstate, hres⟩ := bind_eq_ok_iff.mp hres
  have hb : (Binder.fresh 0 payloadRead).after [] = .fresh 0 payloadRead := rfl
  obtain ⟨x, hx⟩ := (composed_of_build (d := payloads) rfl (by decide) rfl hb rfl lostSecondHour
    hstate hres (by decide)).2
  -- the outcomes are those of the pinned reads
  have houtcome : ∀ s ∈ [⟨2⟩, ⟨1⟩, ⟨0⟩], [(x s).outcome] =
      (lostSecondHour.execute ((Binder.fresh 0 payloadRead).pinnedAt s)
        .all).2.engine.connection.exchanges.map Exchange.outcome :=
    fun s hs => (congrArg (List.map Exchange.outcome) (hx.pinned s hs).2).symm
  have h2 := (List.cons.inj (houtcome ⟨2⟩ (by decide))).1
  have h1 := (List.cons.inj (houtcome ⟨1⟩ (by decide))).1
  have h0 := (List.cons.inj (houtcome ⟨0⟩ (by decide))).1
  refine ⟨rfl, rfl, (hx.failed [⟨2⟩] ⟨1⟩ [⟨0⟩] _ rfl ?_ h1).2 .all rfl, ?_⟩
  · rw [List.forall_mem_singleton, h2]
    rfl
  · rw [hx.failures .all rfl, Engine.background_eq_nil (by rintro task ⟨⟩)]
    simp only [List.countP_cons, List.countP_nil, h2, h1, h0]
    rfl

end Definition

end RotatedShards
