import RotatedShards.Proofs.Execution.Foresight
import RotatedShards.Proofs.Execution.Ledger
import RotatedShards.Proofs.Execution.Preview
import RotatedShards.Proofs.Store.Events

/-!
# Selecting events

A read of the in-memory store carries one value, which selects events in the tables that it
goes to. Whatever that value is, the rows of what is selected can be decoded, so that a read
for all events has just these, table by table, and changes none.

Results:
* `Binder.exists_plan`: an execution has a plan where the shards that it goes to have tables.
* `Client.execute_reads`: what a plan of reads finds.
* `Definition.addresses_of_goesTo`: the shards of an execution have tables.
* `Definition.selected_of_build`: what the reads of a built query find.
-/

namespace RotatedShards

variable {α : Type}

/-! ## Plans -/

namespace Binder

/-- The shards that an execution goes to, most recent first: the one that is known beforehand,
    the current one, or those in range. -/
def GoesTo (b : Binder α) (state : Except QueryError RotationState) (shards : List ShardId) :
    Prop :=
  match b.route with
  | .shard shard => shards = [shard]
  | .current => ∃ s, state = .ok s ∧ shards = [s.current]
  | .window => ∃ s, state = .ok s ∧ b.query.resolve s = .ok shards

/-- An execution that merges has a plan if the shards that it goes to have tables: there is a
    statement for each of them. -/
theorem exists_plan {b : Binder α} (hb : b.Sound) {mode : Mode} (hm : mode.merges = true)
    {state : Except QueryError RotationState} {shards : List ShardId}
    (hgoes : b.GoesTo state shards)
    (htables : ∀ shard ∈ shards, shard.addresses b.query.numShards = true) :
    ∃ plan, b.plan mode state = .ok plan ∧ shards.mapM b.materialize = .ok plan.statements := by
  unfold GoesTo at hgoes
  cases hr : b.route with
  | shard shard =>
    simp only [hr] at hgoes
    subst hgoes
    obtain ⟨statement, hst⟩ := exists_materialize hb (htables shard List.mem_cons_self)
    refine ⟨.single shard statement, ?_, mapM_eq_ok_iff.mpr (.cons hst .nil)⟩
    rw [plan_shard_eq hr, hst]
    rfl
  | current =>
    simp only [hr] at hgoes
    obtain ⟨s, rfl, rfl⟩ := hgoes
    obtain ⟨statement, hst⟩ := exists_materialize hb (htables s.current List.mem_cons_self)
    refine ⟨.single s.current statement, ?_, mapM_eq_ok_iff.mpr (.cons hst .nil)⟩
    unfold plan
    simp only [hr]
    exact map_eq_ok_iff.mpr ⟨statement, hst, rfl⟩
  | window =>
    simp only [hr] at hgoes
    obtain ⟨s, rfl, hres⟩ := hgoes
    obtain ⟨statements, hst⟩ := exists_mapM_eq_ok (f := b.materialize) fun shard hmem =>
      exists_materialize hb (htables shard hmem)
    refine ⟨.fanOut shards statements, ?_, hst⟩
    rw [plan_window_eq hr hm]
    exact bind_eq_ok_iff.mpr ⟨shards, hres, map_eq_ok_iff.mpr ⟨statements, hst, rfl⟩⟩

theorem target_of_materialize {b : Binder α} {shard : ShardId} {statement : BoundStatement}
    (h : b.materialize shard = .ok statement) :
    MemoryStore.target statement = shard.tableIndex?.getD 0 := by
  rw [MemoryStore.target, shard_of_materialize h]
  split_ifs with hshard
  · rw [hshard]
    rfl
  · rfl

/-- A statement for reading by key carries what its binder holds to a table, and inserts
    nothing. -/
theorem reads_of_materialize {b : Binder α} (hb : b.Sound) {table : String} {count : Nat}
    (hst : b.query.statements = Event.selectStatements table count) {shard : ShardId}
    (hs : shard.addresses b.query.numShards = true) {statement : BoundStatement}
    (h : b.materialize shard = .ok statement) :
    statement.values = b.values ∧ MemoryStore.target statement < b.query.numShards ∧
      MemoryStore.isInsert statement.text = false := by
  obtain ⟨hvalues, -, -, index, prepared, -, -, hprepared, htext⟩ := Makes.carries hb ⟨shard, h⟩
  obtain ⟨i, hi, hlt⟩ := ShardId.addresses_iff.mp hs
  rw [hst] at hprepared
  refine ⟨hvalues, ?_, ?_⟩
  · rwa [target_of_materialize h, hi]
  · rw [htext]
    exact Event.isInsert_of_mem_selectStatements (List.mem_of_getElem? hprepared)

/-- What statements for one value find is what the shards that they were made for have. -/
theorem flatMap_segment_of_mapM {b : Binder α} {shards : List ShardId}
    {statements : List BoundStatement} (h : shards.mapM b.materialize = .ok statements)
    (s : MemoryStore) (value : Value) :
    (statements.flatMap fun statement => s.segment value statement.shard) =
      shards.flatMap (s.segment value) := by
  rw [mapM_eq_ok_iff] at h
  induction h with
  | nil => rfl
  | @cons shard statement shards statements hst _ ih =>
    have hsegment : s.segment value statement.shard = s.segment value shard :=
      congrArg (fun i => Event.selectedBy value (s.events i)) (target_of_materialize hst)
    rw [List.flatMap_cons, List.flatMap_cons, ih, hsegment]

theorem Reflects.values_of_only {b : Binder α} {q : Query α} {changes : List Adjustment}
    (h : b.Reflects q changes) (hslots : q.slots.length = 1) :
    b.values = [Adjustment.lastValue q changes 0] := by
  obtain ⟨value, hvalue⟩ := List.length_eq_one_iff.mp (h.length_values.trans hslots)
  have hlast := h.values 0 (by omega)
  rw [hvalue] at hlast ⊢
  rw [Option.some.inj hlast]

end Binder

/-! ## Executions -/

/-- A plan of reads with the same value finds what their tables have for it, one after the
    other, and leaves the store as it is. -/
theorem Client.execute_reads {c : Client MemoryStore Event} {b : Binder Event}
    (hm : b.query.mapper = Event.mapper) {count : Nat}
    (hstore : c.engine.connection.store.Whole count) {plan : Plan}
    (hplan : c.planned b .all = .ok plan) {value : Value}
    (hreads : ∀ statement ∈ plan.statements, statement.values = [value] ∧
      MemoryStore.target statement < count ∧ MemoryStore.isInsert statement.text = false) :
    (c.execute b .all).1 = .ok (.items (plan.statements.flatMap fun statement =>
        c.engine.connection.store.segment value statement.shard)) ∧
      (c.execute b .all).2.engine.connection.store = c.engine.connection.store := by
  obtain ⟨houtcomes, hafter⟩ := hstore.read_all fun statement hmem => (hreads statement hmem).2
  have hdecoded : (plan.statements.map fun st => MemoryStore.selected st.values
      (c.engine.connection.store.events (MemoryStore.target st))).mapM b.query.mapper.decodeMany =
        .ok (plan.statements.map fun st =>
          c.engine.connection.store.segment value st.shard) := by
    rw [List.mapM_map, hm]
    refine mapM_eq_ok_map fun statement hmem => ?_
    show Event.mapper.decodeMany (MemoryStore.selected statement.values _) = _
    rw [(hreads statement hmem).1, Event.decodeMany_selected]
    rfl
  have hwalks : b.query.walks .all plan = false := by cases plan <;> rfl
  refine ⟨?_, (c.execute_of_not_walks hplan hwalks).2.trans hafter⟩
  rw [c.execute_of_rows hplan hwalks houtcomes]
  show (List.mapM b.query.mapper.decodeMany _).map _ = _
  rw [hdecoded]
  rfl

/-! ## Built queries -/

namespace Definition

/-- The shards that an execution goes to have tables, if the query goes by the clock or has a
    fixed state. -/
theorem addresses_of_goesTo {d : Definition α} {q : Query α} (h : d.build = .ok q)
    (hsource : ∀ source, d.source = some source → source.FixedOrClock) {b : Binder α} {id : Nat}
    {calls : List Binder.Call} (hb : (Binder.fresh id q).after calls = b) {now : Instant}
    {shards : List ShardId} (hgoes : b.GoesTo (q.source.stateAt now) shards) :
    ∀ shard ∈ shards, shard.addresses q.numShards = true := by
  have hstate {s : RotationState} (hs : q.source.stateAt now = .ok s) :
      s.numShards = q.numShards := (build_sound h).numShards_eq (build_source h hsource) hs
  obtain ⟨hsound, hreflects⟩ := reflects_of_build h hb
  obtain rfl := hreflects.query
  unfold Binder.GoesTo at hgoes
  cases hr : b.route with
  | shard shard =>
    simp only [hr] at hgoes
    subst hgoes
    exact List.forall_mem_singleton.mpr (Binder.addresses_of_route hsound hr)
  | current =>
    simp only [hr] at hgoes
    obtain ⟨s, hs, rfl⟩ := hgoes
    exact List.forall_mem_singleton.mpr (s.addresses_of_mem (hstate hs) s.current_mem)
  | window =>
    simp only [hr] at hgoes
    obtain ⟨s, hs, hres⟩ := hgoes
    intro shard hmem
    exact s.addresses_of_mem (hstate hs) ((Resolver.plan_isPrefix hres).subset hmem)

/-- A query that is built for reading events by key has one slot. -/
theorem query_of_selectStatements {d : Definition Event} {q : Query Event} (h : d.build = .ok q)
    {table : String} {count : Nat}
    (hst : d.statements = some (Event.selectStatements table count)) :
    q.statements = Event.selectStatements table count ∧ q.mapper = d.mapper ∧
      q.slots.length = 1 := by
  have hsound := build_sound h
  obtain ⟨source, statements, -, -, -, hstatements, -, -, hq⟩ := build_eq_ok h
  have hq' : q.statements = Event.selectStatements table count := by
    rw [(checkStatements_eq_ok hstatements).1, Option.some.injEq] at hst
    rw [hq, ← hst]
  refine ⟨hq', by rw [hq], ?_⟩
  -- there is a statement that tells, since there is a shard
  have hpos : 0 < q.statements.length := hsound.length_statements ▸ hsound.numShards_pos
  have hparams := hsound.params_eq _ (List.getElem_mem hpos)
  have hmem : q.statements[0] ∈ Event.selectStatements table count :=
    hq' ▸ List.getElem_mem hpos
  obtain ⟨i, -, hi⟩ := List.mem_map.mp hmem
  rw [← hparams, ← hi]

/-- A read that was built for the tables of a family has one slot, and a read for all events
    has those that the value in it selects: what was bound to the slot last, or null. They
    come from the tables of the shards that it goes to, one after the other, each in its
    order, and nothing is changed. No table may fail; what the tables hold does not matter, nor
    whether the read is pinned, of a single table, or spans the shards in range. -/
theorem selected_of_build {d : Definition Event} {q : Query Event} (h : d.build = .ok q)
    {table : String} {count : Nat} (hst : d.statements = some (Event.selectStatements table count))
    (hm : d.mapper = Event.mapper) {b : Binder Event} {id : Nat} {calls : List Binder.Call}
    (hb : (Binder.fresh id q).after calls = b) {c : Client MemoryStore Event}
    (hstore : c.engine.connection.store.Whole q.numShards) {shards : List ShardId}
    (hgoes : b.GoesTo (q.source.stateAt (c.now q)) shards)
    (htables : ∀ shard ∈ shards, shard.addresses q.numShards = true) :
    ∃ value, value = Adjustment.lastValue q ((Binder.fresh id q).admitted calls) 0 ∧
      b.values = [value] ∧
      (c.execute b .all).1 = .ok (.items (shards.flatMap fun shard =>
        Event.selectedBy value
          (c.engine.connection.store.events (shard.tableIndex?.getD 0)))) ∧
      (c.execute b .all).2.engine.connection.store = c.engine.connection.store := by
  obtain ⟨hsound, hreflects⟩ := reflects_of_build h hb
  obtain rfl := hreflects.query
  obtain ⟨hstatements, hmapper, hslots⟩ := query_of_selectStatements h hst
  obtain ⟨plan, hplan, hmade⟩ := Binder.exists_plan hsound (by rfl : Mode.all.merges = true)
    hgoes htables
  have hvalues := hreflects.values_of_only hslots
  have hreads : ∀ statement ∈ plan.statements,
      statement.values = [Adjustment.lastValue b.query ((Binder.fresh id b.query).admitted calls) 0]
        ∧ MemoryStore.target statement < b.query.numShards ∧
        MemoryStore.isInsert statement.text = false := by
    intro statement hmem
    obtain ⟨shard, hshard, hstatement⟩ := exists_of_mem_mapM hmade hmem
    rw [← hvalues]
    exact Binder.reads_of_materialize hsound hstatements (htables shard hshard) hstatement
  obtain ⟨hfound, hkept⟩ := c.execute_reads (hmapper.trans hm) hstore hplan hreads
  rw [Binder.flatMap_segment_of_mapM hmade] at hfound
  exact ⟨_, rfl, hvalues, hfound, hkept⟩

/-- A client in the third hour, whose tables have events from each hour. -/
def threeHours : Client MemoryStore Event :=
  .fresh ⟨[{ events := [⟨"a", "0"⟩, ⟨"b", "0"⟩] }, { events := [⟨"b", "1"⟩] },
    { events := [⟨"b", "2"⟩, ⟨"a", "2"⟩, ⟨"a", "2"⟩], latency := 5 }]⟩ (.ofMillis 10000000)

/-- Of the same tables, a key selects the events that have it, a list with this key none, and
    nothing at all each event. -/
theorem selected_of_build_threeHours :
    (threeHours.execute Ledger.boundRead .all).1 =
        .ok (.items [⟨"a", "2"⟩, ⟨"a", "2"⟩, ⟨"a", "0"⟩]) ∧
      (threeHours.execute ((Binder.fresh 0 Ledger.keyRead).after
        [.adjust (.bindNamed "key" (.list [.text "a"]))]) .all).1 = .ok (.items []) ∧
      (threeHours.execute (Binder.fresh 0 Ledger.keyRead) .all).1 =
        .ok (.items [⟨"b", "2"⟩, ⟨"a", "2"⟩, ⟨"a", "2"⟩, ⟨"b", "1"⟩, ⟨"a", "0"⟩, ⟨"b", "0"⟩]) ∧
      (threeHours.execute Ledger.boundRead .all).2.engine.connection.store =
        threeHours.engine.connection.store := by
  have hbuilt : Ledger.eventByKey.build = .ok Ledger.keyRead := rfl
  have hread (calls : List Binder.Call)
      (hgoes : ((Binder.fresh 0 Ledger.keyRead).after calls).GoesTo
        (Ledger.keyRead.source.stateAt (threeHours.now Ledger.keyRead)) [⟨2⟩, ⟨1⟩, ⟨0⟩]) :=
    selected_of_build hbuilt rfl rfl rfl (c := threeHours) ⟨rfl, by decide⟩ hgoes
      (addresses_of_goesTo hbuilt (by rintro _ ⟨⟩) rfl hgoes)
  obtain ⟨_, rfl, -, hkey, hkept⟩ := hread [.adjust (.bind 0 (.text "a"))] ⟨_, rfl, rfl⟩
  obtain ⟨_, rfl, -, hlist, -⟩ :=
    hread [.adjust (.bindNamed "key" (.list [.text "a"]))] ⟨_, rfl, rfl⟩
  obtain ⟨_, rfl, -, hall, -⟩ := hread [] ⟨_, rfl, rfl⟩
  exact ⟨hkey, hlist, hall, hkept⟩

end Definition

end RotatedShards
