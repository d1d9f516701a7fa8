import RotatedShards.Proofs.Execution.Agreement
import RotatedShards.Proofs.Execution.Composition
import RotatedShards.Proofs.Execution.Dispatched

/-!
# Executions for a single shard

There are three ways to execute what a single shard answers: on the calling thread, as a task
of its own, and through the gathering of all shards in range, of which there is one. They send
the same statement, leave the same store behind and count the same. The first two hand on the
rows as they are; the third one decodes them.

Results:
* `Binder.plan_congr_single`: a rule that picks a single shard gives every mode the same plan.
* `Outlook.serve_eq`: what an execution for a single shard comes to.
* `Engine.undergoes_serve`: the same for an engine, and what of it is counted by then.
* `Client.single_shard_agree`: the three ways agree.
-/

namespace RotatedShards

variable {σ α : Type}

/-! ## Plans -/

/-- Where a rule picks a single shard, every mode has the same plan. -/
theorem Binder.plan_congr_single {b : Binder α} (h : b.singleShard = true) (mode mode' : Mode)
    (state : Except QueryError RotationState) : b.plan mode state = b.plan mode' state := by
  have hroute : b.route ≠ .window := by
    intro hwindow
    rw [singleShard_eq_false_iff.mpr hwindow] at h
    cases h
  unfold plan
  cases hr : b.route with
  | shard shard => rfl
  | current => rfl
  | window => exact absurd hr hroute

theorem Binder.single_of_not_merges {b : Binder α} {mode : Mode} (hm : mode.merges = false)
    {state : Except QueryError RotationState} {plan : Plan} (h : b.plan mode state = .ok plan) :
    ∃ shard statement, plan = .single shard statement := by
  rcases merges_or_single_of_plan h with hmerges | hsingle
  · rw [hm] at hmerges
    cases hmerges
  · exact hsingle

/-! ## Effects -/

/-- The failure of the only statement is counted, whatever is made of its rows, and there is
    no surplus unless at most one object is allowed. -/
theorem Gathering.settle_single {g : Gathering α} {x : Exchange} (hxs : g.outcomes = [x.outcome])
    (hg : g.merging ≠ .atMostOne) :
    g.settle.failures = (if x.fails then 1 else 0) ∧ g.settle.surplus = none := by
  have hsurplus (rows : List RawRows) : g.merging.surplus? g.mapper rows = none := by
    cases hm : g.merging with
    | atMostOne => exact absurd hm hg
    | rows => rfl
    | first => rfl
    | all => rfl
    | firstPresent => rfl
  unfold Exchange.fails
  rw [← Exchange.outcome]
  cases hx : x.outcome with
  | rows rows =>
    have hrows : g.outcomes = [rows].map .rows := by rw [hxs, hx]; rfl
    rw [settle_of_rows hrows]
    exact ⟨rfl, hsurplus [rows]⟩
  | failed fault =>
    rw [hx] at hxs
    simp only [settle, hxs]
    exact ⟨rfl, rfl⟩
  | crashed =>
    rw [hx] at hxs
    simp only [settle, hxs]
    exact ⟨rfl, rfl⟩

section Effects

variable [Backend σ]

/-- What an execution for a single shard comes to depends on the mode only in what is made of
    the rows. -/
theorem Effect.on_single_congr (store : σ) (q : Query α) {mode mode' : Mode}
    (hmode : mode ≠ .atMostOne) (hmode' : mode' ≠ .atMostOne) (shard : ShardId)
    (statement : BoundStatement) :
    (Effect.on store q mode (.ok (.single shard statement))).counters =
      (Effect.on store q mode' (.ok (.single shard statement))).counters := by
  have hmerging (mode : Mode) (hmode : mode ≠ .atMostOne) :
      mode.merging (.single shard statement) ≠ .atMostOne := by
    cases mode with
    | atMostOne => exact absurd rfl hmode
    | _ => rintro ⟨⟩
  have hsettle (mode : Mode) (hmode : mode ≠ .atMostOne) := Gathering.settle_single
    (g := .on store q mode (.single shard statement)) (x := .on store statement) rfl
    (hmerging mode hmode)
  obtain ⟨hfailures, hsurplus⟩ := hsettle mode hmode
  obtain ⟨hfailures', hsurplus'⟩ := hsettle mode' hmode'
  simp only [Effect.on, Statistics.countSettlement, hfailures, hfailures', hsurplus, hsurplus']

end Effects

/-! ## Serving -/

namespace Outlook

variable [Backend σ]

/-- An execution for a single shard results in what it comes to: it issues its statements, and
    they are bound to be counted. -/
theorem serve_eq (o : Outlook σ α) (q : Query α) (mode : Mode) {plan : Except QueryError Plan}
    (hplan : ∀ p, plan = .ok p → ∃ shard statement, p = .single shard statement)
    {effect : Effect α} (heffect : effect = .on o.store q mode plan) :
    (o.serve q mode plan).1 = effect.result ∧
      (o.serve q mode plan).2.store = storeAfter o.store effect.statements ∧
      (o.serve q mode plan).2.exchanges = o.exchanges ++ trace o.store effect.statements ∧
      (o.serve q mode plan).2.totals = o.totals.plus effect.counters := by
  unfold serve
  split_ifs with hsync
  · subst hsync heffect
    cases plan with
    | error error => exact ⟨rfl, rfl, (List.append_nil _).symm, rfl⟩
    | ok plan =>
      obtain ⟨shard, statement, rfl⟩ := hplan plan rfl
      refine ⟨rfl, rfl, rfl, ?_⟩
      simp only [call, Plan.statements, count, issue, accept, Effect.on, Statistics.countPlan,
        Statistics.countSettlement, Statistics.plus, Nat.zero_add, Nat.add_zero]
      rfl
  · have hwalks : ∀ p, plan = .ok p → q.walks mode p = false := by
      intro p hp
      obtain ⟨shard, statement, rfl⟩ := hplan p hp
      rfl
    have hstart := o.start_eq q mode hwalks heffect
    have hpromise : (o.start q mode plan).promises[o.promises.length]? =
        some (.result effect.result) := by
      rw [hstart]
      exact List.getElem?_concat_length
    rw [wait, hpromise, hstart]
    exact ⟨rfl, rfl, rfl, rfl⟩

end Outlook

theorem Task.isOutstanding_pass_begin {task : Task α} (h : task.isOutstanding = false)
    (now time : Nat) : ((task.begin now).pass time).isOutstanding = false := by
  cases task with
  | queued work => cases h
  | running work due => cases h
  | asking work due rest => cases h
  | rejected error => rfl
  | walking mapper statements => rfl
  | settled result => rfl
  | taken => rfl

namespace Engine

variable [Backend σ]

/-- An engine undergoes what an execution comes to: the statements find the store as it is, and
    leave it behind as they do; they are recorded, and counted as soon as nothing that was
    issued before is outstanding any more. -/
structure Undergoes (e : Engine σ α) (effect : Effect α) (e' : Engine σ α) : Prop where
  store : e'.connection.store = storeAfter e.connection.store effect.statements
  exchanges : e'.connection.exchanges =
    e.connection.exchanges ++ trace e.connection.store effect.statements
  totals : e'.totals = e.totals.plus effect.counters
  stats : (∀ task ∈ e.tasks, task.isOutstanding = false) →
    e'.stats = e.stats.plus effect.counters

theorem Undergoes.congr {e e' : Engine σ α} {effect effect' : Effect α}
    (h : e.Undergoes effect e') (hstatements : effect'.statements = effect.statements)
    (hcounters : effect'.counters = effect.counters) : e.Undergoes effect' e' := by
  constructor
  · rw [hstatements]
    exact h.store
  · rw [hstatements]
    exact h.exchanges
  · rw [hcounters]
    exact h.totals
  · rw [hcounters]
    exact h.stats

theorem tasks_call (e : Engine σ α) (q : Query α) (plan : Except QueryError Plan) :
    (e.call q plan).2.tasks = e.tasks := by
  cases plan with
  | error error => rfl
  | ok plan =>
    simp only [call]
    cases plan.statements with
    | nil => rfl
    | cons statement rest =>
      have hask : ((e.accept q.text plan).ask statement).2.tasks = e.tasks := rfl
      dsimp only
      generalize (e.accept q.text plan).ask statement = asked at hask ⊢
      obtain ⟨⟨delay, outcome⟩, e'⟩ := asked
      cases outcome with
      | rows rows => exact hask
      | failed fault => exact hask
      | crashed => exact hask

theorem settled_serve {e : Engine σ α} (h : ∀ task ∈ e.tasks, task.isOutstanding = false)
    (q : Query α) (mode : Mode) {plan : Plan} (hwalks : q.walks mode plan = false) :
    ∀ task ∈ (e.serve q mode (.ok plan)).2.tasks, task.isOutstanding = false := by
  unfold serve
  split_ifs
  · rw [tasks_call]
    exact h
  · have htasks : (e.start q mode (.ok plan)).tasks =
        e.tasks ++ [.queued (e.gathering q mode plan)] := by
      rw [start_of_not_walks e q mode plan hwalks, enqueue,
        ((e.accept q.text plan).sendAll_spec plan.statements).2.2]
      rfl
    rw [start_wait_eq e q mode plan hwalks]
    intro task hmem
    -- the task that is taken is the last one, and the others are those of before
    simp only [take, put, advance, begin, htasks, List.map_append, List.map_cons,
      List.map_nil] at hmem
    rw [List.set_append_right _ _ (by simp)] at hmem
    simp only [List.length_map, Nat.sub_self, List.set_cons_zero] at hmem
    rcases List.mem_append.mp hmem with hbefore | hlast
    · obtain ⟨_, hbegun, rfl⟩ := List.mem_map.mp hbefore
      obtain ⟨task, htask, rfl⟩ := List.mem_map.mp hbegun
      exact Task.isOutstanding_pass_begin (h task htask) _ _
    · rw [List.mem_singleton.mp hlast]
      rfl

/-- An execution for a single shard has the result that it comes to, and the engine undergoes
    the rest. -/
theorem undergoes_serve (e : Engine σ α) (q : Query α) (mode : Mode)
    {plan : Except QueryError Plan}
    (hplan : ∀ p, plan = .ok p → ∃ shard statement, p = .single shard statement)
    {effect : Effect α} (heffect : effect = .on e.connection.store q mode plan) :
    (e.serve q mode plan).1 = effect.result ∧
      e.Undergoes effect (e.serve q mode plan).2 := by
  obtain ⟨hserved, houtlook⟩ := e.outlook_serve q mode plan
  obtain ⟨hresult, hstore, hexchanges, htotals⟩ := e.outlook.serve_eq q mode hplan heffect
  rw [← houtlook] at hstore hexchanges htotals
  refine ⟨hserved.trans hresult, hstore, hexchanges, htotals, fun hsettled => ?_⟩
  cases plan with
  | error error =>
    subst heffect
    obtain ⟨-, -, hstats, -, -⟩ := e.serve_rejected q mode error
    exact hstats
  | ok plan =>
    obtain ⟨shard, statement, rfl⟩ := hplan plan rfl
    have hbefore : e.outlook.totals = e.stats := totals_eq_stats hsettled
    rw [← totals_eq_stats (settled_serve hsettled q mode rfl), ← hbefore]
    exact htotals

end Engine

/-! ## Executions -/

namespace Client

/-- How the raw rows of a single shard, or why there are none, answer a read for all objects:
    the rows are decoded, and an error is the same. -/
def Decoded (mapper : RowMapper α) (raw all : Except QueryError (Answer α)) : Prop :=
  (∃ rows, raw = .ok (.rows rows) ∧ all = (mapper.decodeMany rows).map .items) ∨
    ∃ e, raw = .error e ∧ all = .error e

variable [Backend σ]

theorem decoded_of_single (store : σ) (q : Query α) (shard : ShardId) (statement : BoundStatement) :
    Decoded q.mapper (Effect.on store q .sync (.ok (.single shard statement))).result
      (Effect.on store q .all (.ok (.single shard statement))).result := by
  have hraw : (Effect.on store q .sync (.ok (.single shard statement))).result =
      (Gathering.mk .rows q.text q.mapper
        [(Exchange.on store statement).response]).settle.result := rfl
  have hall : (Effect.on store q .all (.ok (.single shard statement))).result =
      ((Exchange.on store statement).objects q.mapper).map .items :=
    Gathering.result_of_singleton (x := .on store statement) rfl rfl
  rw [hraw, hall, Engine.settle_rows]
  unfold Exchange.objects Exchange.outcome
  cases (Exchange.on store statement).response.outcome with
  | rows rows => exact Or.inl ⟨rows, rfl, rfl⟩
  | failed fault => exact Or.inr ⟨_, rfl, rfl⟩
  | crashed => exact Or.inr ⟨_, rfl, rfl⟩

theorem execute_of_single (c : Client σ α) {b : Binder α} {mode : Mode}
    {plan : Except QueryError Plan} (h : c.planned b mode = plan)
    (hplan : ∀ p, plan = .ok p → ∃ shard statement, p = .single shard statement) :
    let effect : Effect α := .on c.engine.connection.store b.query mode plan
    (c.execute b mode).1 = effect.result ∧
      c.engine.Undergoes effect (c.execute b mode).2.engine := by
  obtain ⟨hresult, hengine⟩ := c.execute_of_planned h
  rw [hresult, hengine]
  exact c.engine.undergoes_serve b.query mode hplan rfl

/-- The ways to execute what a single shard answers agree, whatever the query, the bindings,
    the state of the rotation, the store and its failures. An execution on the calling thread
    and one apart from it have the same result and come to the same: at most one statement,
    which is one of the binder, the store after it, and the same amounts for the counters.
    Where a rule of selection picks a single shard, a read for all objects comes to the same,
    too, and it has the objects of these rows, or this error. -/
theorem single_shard_agree (c : Client σ α) (b : Binder α) :
    let sync := c.execute b .sync
    let async := c.execute b .async
    let all := c.execute b .all
    ∃ effect : Effect α, effect.statements.length ≤ 1 ∧
      (∀ statement ∈ effect.statements, b.Makes statement) ∧
      sync.1 = effect.result ∧ c.engine.Undergoes effect sync.2.engine ∧
      async.1 = effect.result ∧ c.engine.Undergoes effect async.2.engine ∧
      (b.singleShard = true →
        Decoded b.query.mapper effect.result all.1 ∧ c.engine.Undergoes effect all.2.engine) := by
  intro sync async all
  have hsingle (p : Plan) (hp : c.planned b .sync = .ok p) :
      ∃ shard statement, p = .single shard statement := Binder.single_of_not_merges rfl hp
  have hasync : c.planned b .async = c.planned b .sync := b.plan_congr_merges rfl _
  obtain ⟨hsync, hsyncEngine⟩ := c.execute_of_single rfl hsingle
  obtain ⟨hasync, hasyncEngine⟩ := c.execute_of_single hasync hsingle
  have heffect : Effect.on c.engine.connection.store b.query .async (c.planned b .sync) =
      .on c.engine.connection.store b.query .sync (c.planned b .sync) := by
    cases c.planned b .sync <;> rfl
  rw [heffect] at hasync hasyncEngine
  refine ⟨_, ?_, ?_, hsync, hsyncEngine, hasync, hasyncEngine, fun hb => ?_⟩
  · cases hplan : c.planned b .sync with
    | error e => exact Nat.zero_le _
    | ok plan =>
      obtain ⟨shard, statement, rfl⟩ := hsingle plan hplan
      exact le_refl 1
  · cases hplan : c.planned b .sync with
    | error e => rintro statement ⟨⟩
    | ok plan => exact Binder.makes_of_plan hplan
  · have hall : c.planned b .all = c.planned b .sync := Binder.plan_congr_single hb _ _ _
    obtain ⟨hall, hundergoes⟩ := c.execute_of_single hall hsingle
    rw [hall]
    cases hplan : c.planned b .sync with
    | error e =>
      rw [hplan] at hundergoes
      exact ⟨Or.inr ⟨e, rfl, rfl⟩, hundergoes⟩
    | ok plan =>
      obtain ⟨shard, statement, rfl⟩ := hsingle plan hplan
      rw [hplan] at hundergoes
      refine ⟨decoded_of_single _ _ _ _, hundergoes.congr rfl ?_⟩
      exact Effect.on_single_congr _ _ (by decide) (by decide) shard statement

end Client

namespace Definition

/-- The read of payloads, pinned to an hour. -/
def payloadsOf (hour : ShardId) : Binder String := (Binder.fresh 0 payloadRead).pinnedAt hour

/-- The rows of the first hour are decoded, and the loss of the second hour is the same error
    in all three ways, and counted once in each. -/
theorem single_shard_agree_lostSecondHour :
    (lostSecondHour.execute (payloadsOf ⟨0⟩) .async).1 =
        .ok (.rows ⟨["key", "payload"], [[.text "a", .text "1"]]⟩) ∧
      (lostSecondHour.execute (payloadsOf ⟨0⟩) .all).1 = .ok (.items ["1"]) ∧
      (lostSecondHour.execute (payloadsOf ⟨1⟩) .all).1 =
        .error (.backend (.reported "table lost")) ∧
      (lostSecondHour.execute (payloadsOf ⟨1⟩) .async).2.engine.stats =
        { single := 1, requests := 1, failures := 1 } ∧
      (lostSecondHour.execute (payloadsOf ⟨1⟩) .all).2.engine.stats =
        { single := 1, requests := 1, failures := 1 } := by
  have hsettled : ∀ task ∈ lostSecondHour.engine.tasks, task.isOutstanding = false := by
    rintro task ⟨⟩
  obtain ⟨first, -, -, hsync, -, hasync, -, hall⟩ :=
    lostSecondHour.single_shard_agree (payloadsOf ⟨0⟩)
  obtain ⟨hall, -⟩ := hall rfl
  have hrows : first.result = .ok (.rows ⟨["key", "payload"], [[.text "a", .text "1"]]⟩) := by
    rw [← hsync]
    rfl
  obtain ⟨second, -, -, hsync', hcounted, -, hasyncCounted, hall'⟩ :=
    lostSecondHour.single_shard_agree (payloadsOf ⟨1⟩)
  obtain ⟨hall', hallCounted⟩ := hall' rfl
  have hlost : second.result = .error (.backend (.reported "table lost")) := by
    rw [← hsync']
    rfl
  have hcounted : { single := 1, requests := 1, failures := 1 } =
      lostSecondHour.engine.stats.plus second.counters := hcounted.stats hsettled
  refine ⟨hasync.trans hrows, ?_, ?_, ?_, ?_⟩
  · rcases hall with ⟨rows, hraw, hall⟩ | ⟨e, hraw, -⟩
    · cases hrows.symm.trans hraw
      exact hall
    · cases hrows.symm.trans hraw
  · rcases hall' with ⟨rows, hraw, -⟩ | ⟨e, hraw, hall'⟩
    · cases hlost.symm.trans hraw
    · cases hlost.symm.trans hraw
      exact hall'
  · exact (hasyncCounted.stats hsettled).trans hcounted.symm
  · exact (hallCounted.stats hsettled).trans hcounted.symm

end Definition

end RotatedShards
