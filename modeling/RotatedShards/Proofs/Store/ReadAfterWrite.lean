import RotatedShards.Proofs.Store.Selection

/-!
# Reading what was written

A write of an event adds it to the table of the shard that is current then, and to no other.
A read for all events finds it from then on if the read selects it and that shard is in
range, in whichever state of the rotation, and finds otherwise what it found before.

Results:
* `Client.execute_upsert`: what a write leaves in the store.
* `Client.execute_read`: what a read for all events finds.
* `Client.read_after_write`: what a read finds before and after a write.
-/

namespace RotatedShards

variable {α : Type}

/-! ## Writes and reads of events -/

/-- A binder of a query with given statements, after any calls that did not pin it. -/
structure Binder.Unpinned (b : Binder α) (upsert : Bool) (statements : List PreparedStatement) :
    Prop where
  built : ∃ d : Definition α, d.build = .ok b.query ∧ d.upsert = upsert ∧
    d.statements = some statements
  reached : ∃ id calls, (Binder.fresh id b.query).after calls = b
  pinned_eq_none : b.pinned = none

/-- An unpinned write of an event to one of the tables of `count` shards. -/
structure Binder.Inserts (b : Binder α) (count : Nat) (event : Event) : Prop where
  unpinned : ∃ table, b.Unpinned true (Event.insertStatements table count)
  values_eq : b.values = [.text event.key, .text event.payload]

/-- An unpinned read of the events with a key from the tables of `count` shards. -/
structure Binder.Selects (b : Binder Event) (count : Nat) (key : Value) : Prop where
  unpinned : ∃ table, b.Unpinned false (Event.selectStatements table count)
  mapper_eq : b.query.mapper = Event.mapper
  values_eq : b.values = [key]

namespace Binder.Unpinned

variable {b : Binder α} {upsert : Bool} {statements : List PreparedStatement}

theorem sound (h : b.Unpinned upsert statements) : b.Sound := by
  obtain ⟨⟨d, hd, -, -⟩, ⟨id, calls, hb⟩, -⟩ := h
  exact hb ▸ (sound_after (sound_fresh (Definition.build_sound hd) id) calls).2

theorem query_eq (h : b.Unpinned upsert statements) :
    b.query.upsert = upsert ∧ b.query.statements = statements := by
  obtain ⟨d, hd, hupsert, hstatements⟩ := h.built
  obtain ⟨source, prepared, -, -, -, hprepared, -, -, hq⟩ := Definition.build_eq_ok hd
  rw [(Definition.checkStatements_eq_ok hprepared).1, Option.some.injEq] at hstatements
  rw [hq]
  exact ⟨hupsert, hstatements⟩

theorem numShards_eq (h : b.Unpinned upsert statements) :
    b.query.numShards = statements.length := by
  rw [← h.sound.query_sound.length_statements, h.query_eq.2]

theorem values_text (h : b.Unpinned upsert statements) {statement : BoundStatement}
    (hmakes : b.Makes statement) :
    statement.values = b.values ∧ ∃ p ∈ statements, statement.text = p.text := by
  obtain ⟨hvalues, -, -, index, prepared, -, -, hprepared, htext⟩ := hmakes.carries h.sound
  rw [h.query_eq.2] at hprepared
  exact ⟨hvalues, prepared, List.mem_of_getElem? hprepared, htext⟩

end Binder.Unpinned

namespace Client

/-! ## Executions -/

/-- A write adds its event to the table of the current shard, and has no rows. -/
theorem execute_upsert {c : Client MemoryStore α} {b : Binder α} {count : Nat} {event : Event}
    (hb : b.Inserts count event) (hstore : c.engine.connection.store.Whole count)
    {s : RotationState} (hstate : b.query.source.stateAt (c.now b.query) = .ok s)
    (hs : s.numShards = count) {mode : Mode} (hmode : mode = .sync ∨ mode = .async) :
    ∃ i, s.current.tableIndex? = some i ∧ i < count ∧
      (c.execute b mode).1 = .ok (.rows .empty) ∧
      (c.execute b mode).2.engine.connection.store = c.engine.connection.store.insert i event := by
  obtain ⟨table, hb'⟩ := hb.unpinned
  have hcount : b.query.numShards = count := by
    rw [hb'.numShards_eq, Event.insertStatements, List.length_map, List.length_range]
  obtain ⟨i, hi, hlt⟩ := ShardId.addresses_iff.mp (s.addresses_of_mem hs s.current_mem)
  obtain ⟨shard, statement, hshard, hplan⟩ := Binder.plan_of_upsert hb'.sound hb'.pinned_eq_none
    hb'.query_eq.1 (hs.trans hcount.symm) mode
  obtain ⟨hvalues, p, hp, htext⟩ :=
    hb'.values_text (Binder.makes_of_plan hplan statement (List.mem_singleton_self _))
  have htarget : MemoryStore.target statement = i := by
    rw [MemoryStore.target, hshard, hi, Option.getD_some]
  have hinserted : MemoryStore.inserted statement.values = event := by
    rw [hvalues, hb.values_eq]
    rfl
  obtain ⟨houtcome, hafter⟩ := hstore.answer_of_write (htarget ▸ hlt)
    (htext ▸ Event.isInsert_of_mem_insertStatements hp)
  rw [← hstate] at hplan
  refine ⟨i, hi, hlt, ?_, ?_⟩
  · have houtcomes : (trace c.engine.connection.store [statement]).map Exchange.outcome =
        [RawRows.empty].map .rows := congrArg (fun outcome => [outcome]) houtcome
    rw [c.execute_of_rows hplan rfl houtcomes]
    rcases hmode with rfl | rfl
    · rfl
    · rfl
  · rw [(c.execute_of_not_walks hplan rfl).2, ← htarget, ← hinserted]
    exact hafter

/-- A read for all events finds what the shards in range have for it, one after the other,
    and leaves the store as it is. -/
theorem execute_read {c : Client MemoryStore Event} {b : Binder Event} {count : Nat} {key : Value}
    (hb : b.Selects count key) (hstore : c.engine.connection.store.Whole count)
    {s : RotationState} (hstate : b.query.source.stateAt (c.now b.query) = .ok s)
    (hs : s.numShards = count) {plan : List ShardId} (hres : b.query.resolve s = .ok plan) :
    (c.execute b .all).1 =
        .ok (.items (plan.flatMap (c.engine.connection.store.segment key))) ∧
      (c.execute b .all).2.engine.connection.store = c.engine.connection.store := by
  obtain ⟨table, hb'⟩ := hb.unpinned
  have hcount : b.query.numShards = count := by
    rw [hb'.numShards_eq, Event.selectStatements, List.length_map, List.length_range]
  obtain ⟨p, hshards, hplan⟩ := Binder.plan_of_read hb'.sound hb'.pinned_eq_none
    hb'.query_eq.1 (hs.trans hcount.symm) (by rfl : Mode.all.merges = true) hres
  have hmade : ∀ statement ∈ p.statements, statement.values = [key] ∧
      MemoryStore.target statement < count ∧ MemoryStore.isInsert statement.text = false := by
    intro statement hmem
    obtain ⟨hvalues, prepared, hprepared, htext⟩ :=
      hb'.values_text (Binder.makes_of_plan hplan statement hmem)
    have hshard : statement.shard ∈ s.ordered :=
      (Resolver.plan_isPrefix hres).subset (hshards ▸ List.mem_map_of_mem hmem)
    exact ⟨hvalues.trans hb.values_eq, MemoryStore.target_lt (s.addresses_of_mem hs hshard),
      htext ▸ Event.isInsert_of_mem_selectStatements hprepared⟩
  rw [← hstate] at hplan
  obtain ⟨hfound, hleft⟩ := c.execute_reads hb.mapper_eq hstore hplan hmade
  rw [hfound, ← hshards, List.flatMap_map]
  exact ⟨rfl, hleft⟩

/-- A write lands once, in the table of the shard that is current for the writer, and is read
    back exactly if its shard is in range for the reader. Reads before and after it, by the
    same key and in the same state, have the same shards in range, and each finds what these
    have for it; the later one finds the event, as the last one of its shard, if the key is
    that of the event, or null, and the shard is in range, and nothing else has changed. -/
theorem read_after_write {s : MemoryStore} {count : Nat} (hs : s.Whole count) {event : Event}
    {key : Value} {w : Binder α} (hw : w.Inserts count event) {b b' : Binder Event}
    (hb : b.Selects count key) (hb' : b'.Selects count key) (hquery : b'.query = b.query)
    {mode : Mode} (hmode : mode = .sync ∨ mode = .async)
    {before after : Client MemoryStore Event} {writer : Client MemoryStore α}
    (hbefore : before.engine.connection.store = s)
    (hwriter : writer.engine.connection.store = (before.execute b .all).2.engine.connection.store)
    (hafter : after.engine.connection.store = (writer.execute w mode).2.engine.connection.store)
    {written reading : RotationState} (hwritten : written.numShards = count)
    (hreading : reading.numShards = count)
    (hwriting : w.query.source.stateAt (writer.now w.query) = .ok written)
    (hearly : b.query.source.stateAt (before.now b.query) = .ok reading)
    (hlate : b.query.source.stateAt (after.now b.query) = .ok reading)
    {plan : List ShardId} (hplan : b.query.resolve reading = .ok plan) :
    (writer.execute w mode).1 = .ok (.rows .empty) ∧
    (∃ i < count, written.current.tableIndex? = some i ∧
      after.engine.connection.store.tables =
        s.tables.modify i fun t => { t with events := t.events ++ [event] }) ∧
    ∃ found found', (before.execute b .all).1 = .ok (.items found) ∧
      (after.execute b' .all).1 = .ok (.items found') ∧
      found = plan.flatMap (s.segment key) ∧
      (key = .null ∨ key = .text event.key → written.current ∈ plan →
        ∃ newer older, plan = newer ++ written.current :: older ∧
          written.current ∉ newer ∧ written.current ∉ older ∧
          found = newer.flatMap (s.segment key) ++ s.segment key written.current ++
            older.flatMap (s.segment key) ∧
          found' = newer.flatMap (s.segment key) ++
            (s.segment key written.current ++ [event]) ++ older.flatMap (s.segment key)) ∧
      (¬(key = .null ∨ key = .text event.key) ∨ written.current ∉ plan → found' = found) := by
  subst hbefore
  obtain ⟨hfound, hleft⟩ := execute_read hb hs hearly hreading hplan
  rw [hleft] at hwriter
  obtain ⟨i, hi, hlt, hresult, hstore⟩ := execute_upsert hw (hwriter ▸ hs) hwriting hwritten hmode
  rw [hstore, hwriter] at hafter
  obtain ⟨hfound', -⟩ := execute_read hb' (hafter ▸ hs.insert i event)
    (by rw [hquery]; exact hlate) hreading (by rw [hquery]; exact hplan)
  rw [hafter] at hfound'
  have hwithin : written.current.within count = true :=
    hwritten ▸ written.ordered_within _ written.current_mem
  have hplanned : ∀ shard ∈ plan, shard.within count = true := fun shard hmem =>
    hreading ▸ reading.ordered_within _ ((Resolver.plan_isPrefix hplan).subset hmem)
  obtain ⟨hread, hunread⟩ := MemoryStore.flatMap_segment_insert hi (hs.length_tables.symm ▸ hlt)
    hwithin (Resolver.plan_nodup hplan) hplanned key event
  exact ⟨hresult, ⟨i, hlt, hi, congrArg MemoryStore.tables hafter⟩, _, _, hfound, hfound', rfl,
    hread, hunread⟩

/-- A write of an event to the table of the hour. -/
def newEvent : Definition Event :=
  { text := "INSERT INTO events (key, payload) VALUES (?, ?)", mapper := Event.mapper
    slots := ["key", "payload"], statements := some (Event.insertStatements "events" 3)
    upsert := true, rotation := Resolver.hourly }

/-- The write, with an event. -/
def eventWrite : Binder Event :=
  (Binder.fresh 0 (newEvent.build.toOption.get rfl)).after
    [.adjust (.bind 0 (.text "a")), .adjust (.bind 1 (.text "2"))]

/-- A reader in the third hour, where only the second one has an event. -/
def reader : Client MemoryStore Event :=
  .fresh ⟨[{}, { events := [⟨"a", "1"⟩] }, {}]⟩ (.ofMillis 10000000)

/-- A writer of the same tables, whose clock lags by an hour. -/
def laggingWriter : Client MemoryStore Event :=
  .fresh (reader.execute Ledger.boundRead .all).2.engine.connection.store (.ofMillis 6400000)

/-- The reader after the write. -/
def laterReader : Client MemoryStore Event :=
  .fresh (laggingWriter.execute eventWrite .sync).2.engine.connection.store (.ofMillis 10000000)

/-- The event comes behind the one that its table has, though a later hour has begun. -/
theorem read_after_write_lagging :
    (reader.execute Ledger.boundRead .all).1 = .ok (.items [⟨"a", "1"⟩]) ∧
      laterReader.engine.connection.store.tables =
        [{}, { events := [⟨"a", "1"⟩, ⟨"a", "2"⟩] }, {}] ∧
      (laterReader.execute Ledger.boundRead.freeze .all).1 =
        .ok (.items [⟨"a", "1"⟩, ⟨"a", "2"⟩]) := by
  have hwrite : eventWrite.Inserts 3 ⟨"a", "2"⟩ :=
    ⟨⟨"events", ⟨newEvent, rfl, rfl, rfl⟩, ⟨0, _, rfl⟩, rfl⟩, rfl⟩
  have hread : Ledger.boundRead.Selects 3 (.text "a") :=
    ⟨⟨"events", ⟨Ledger.eventByKey, rfl, rfl, rfl⟩, ⟨0, _, rfl⟩, rfl⟩, rfl, rfl⟩
  have hread' : Ledger.boundRead.freeze.Selects 3 (.text "a") :=
    ⟨⟨"events", ⟨Ledger.eventByKey, rfl, rfl, rfl⟩,
      ⟨0, [.adjust (.bind 0 (.text "a")), .execute .all], rfl⟩, rfl⟩, rfl, rfl⟩
  obtain ⟨written, hwriting, hwritten, hcurrent⟩ : ∃ written,
      eventWrite.query.source.stateAt (laggingWriter.now eventWrite.query) = .ok written ∧
        written.numShards = 3 ∧ written.current = ⟨1⟩ := ⟨_, rfl, rfl, rfl⟩
  obtain ⟨reading, hearly, hlate, hreading, hplan⟩ : ∃ reading,
      Ledger.boundRead.query.source.stateAt (reader.now Ledger.boundRead.query) = .ok reading ∧
        Ledger.boundRead.query.source.stateAt (laterReader.now Ledger.boundRead.query) =
          .ok reading ∧
        reading.numShards = 3 ∧
        Ledger.boundRead.query.resolve reading = .ok [⟨2⟩, ⟨1⟩, ⟨0⟩] := ⟨_, rfl, rfl, rfl, rfl⟩
  obtain ⟨-, ⟨i, -, hi, htables⟩, found, found', hfound, hfound', -, hadded, -⟩ :=
    read_after_write (s := reader.engine.connection.store) ⟨rfl, by decide⟩ hwrite hread hread' rfl
      (Or.inl rfl) rfl (rfl : laggingWriter.engine.connection.store = _)
      (rfl : laterReader.engine.connection.store = _) hwritten hreading hwriting hearly hlate hplan
  have hone : (reader.execute Ledger.boundRead .all).1 = .ok (.items [⟨"a", "1"⟩]) := rfl
  rw [hcurrent] at hi hadded
  obtain rfl : 1 = i := Option.some.inj hi
  rw [hone, Except.ok.injEq, Answer.items.injEq] at hfound
  obtain ⟨newer, older, -, -, -, hbefore, hafter⟩ := hadded (.inr rfl) (by decide)
  -- the shard of the event has the only one so far, so that the others have none
  have hsegment : reader.engine.connection.store.segment (.text "a") ⟨1⟩ = [⟨"a", "1"⟩] := rfl
  rw [← hfound, hsegment] at hbefore
  have hlength := congrArg List.length hbefore
  simp only [List.length_append, List.length_singleton] at hlength
  rw [List.eq_nil_of_length_eq_zero (by omega : (newer.flatMap _).length = 0),
    List.eq_nil_of_length_eq_zero (by omega : (older.flatMap _).length = 0), hsegment] at hafter
  exact ⟨hone, htables, hfound'.trans (by rw [hafter]; rfl)⟩

end Client

end RotatedShards
