import RotatedShards.Proofs.Execution.Refusals
import RotatedShards.Proofs.Store.ReadAfterWrite

/-!
# Retrying writes

Whether a call may be retried is told from the kind of its error alone. Where there is no
plan, and where the table of a write fails, nothing has been written by then. But a write
that took place is answered without columns, and where that answer is decoded for events,
this is an error of the same kind. To retry such a write stores its event once more.

Results:
* `Client.upsert_cases`: a write changes nothing, or it lands and its result depends on the
  mode alone.
* `Client.retryable_upsert`: which retryable errors come from writes that have landed.
* `Client.retryable_though_written`: a write that is stored twice since it is retried.
-/

namespace RotatedShards

variable {α : Type}

/-! ## Writes that land -/

/-- An insertion made by the binder has added its event to a table that does not fail, and
    nothing else has changed. -/
def Binder.Lands (b : Binder α) (before after : MemoryStore) : Prop :=
  ∃ statement table, b.Makes statement ∧ MemoryStore.isInsert statement.text = true ∧
    before.tables[MemoryStore.target statement]? = some table ∧ table.failure = none ∧
    after = before.insert (MemoryStore.target statement)
      (MemoryStore.inserted statement.values)

theorem Binder.Lands.ne {b : Binder α} {before after : MemoryStore} (h : b.Lands before after) :
    after ≠ before := by
  obtain ⟨statement, table, -, -, htable, -, rfl⟩ := h
  intro heq
  have hlt := (List.getElem?_eq_some_iff.mp htable).1
  have hevents := congrArg (fun s => (s.events (MemoryStore.target statement)).length) heq
  simp only [MemoryStore.events_insert hlt, List.length_append, List.length_singleton] at hevents
  omega

/-- A statement to the in-memory store either lands, and is answered without columns, or
    changes nothing. -/
theorem MemoryStore.answer_cases {b : Binder α} {statement : BoundStatement}
    (hmakes : b.Makes statement) (s : MemoryStore) :
    (b.Lands s (answer statement s).2 ∧ (answer statement s).1.outcome = .rows .empty) ∨
      (answer statement s).2 = s := by
  rw [answer_eq]
  match htable : s.tables[target statement]? with
  | none => exact Or.inr rfl
  | some ⟨events, latency, some message⟩ => exact Or.inr rfl
  | some ⟨events, latency, none⟩ =>
    by_cases hinsert : isInsert statement.text = true
    · refine Or.inl ⟨⟨statement, _, hmakes, hinsert, htable, rfl, ?_⟩, ?_⟩
      · simp only [writes, hinsert]
        rfl
      · simp only [responseOf, hinsert]
        rfl
    · exact Or.inr (by simp [writes, hinsert])

/-- What is made of an answer without columns: raw rows are handed on, and no event can be
    decoded. -/
theorem Event.apply_empty (mode : Mode) (shard : ShardId) (statement : BoundStatement)
    (query : String) :
    (mode.merging (.single shard statement)).apply mapper query [.empty] =
      if mode.merges then .error (.backend (.missingColumn "key")) else .ok (.rows .empty) := by
  cases mode <;> rfl

theorem Binder.single_of_upsert {b : Binder α} (hu : b.query.upsert = true) {mode : Mode}
    {state : Except QueryError RotationState} {plan : Plan} (h : b.plan mode state = .ok plan) :
    ∃ shard statement, plan = .single shard statement := by
  rcases single_or_fanOut_of_plan h with ⟨-, hsingle⟩ | ⟨hspans, -⟩
  · exact hsingle
  · simp [singleShard, hu] at hspans

/-! ## Executions -/

namespace Client

/-- A write of events changes nothing, or it lands. A write that lands has a result in the
    modes that hand on its answer as it is, and in those that decode it the error that the
    answer has no keys. -/
theorem upsert_cases (c : Client MemoryStore Event) {b : Binder Event}
    (hu : b.query.upsert = true) (hm : b.query.mapper = Event.mapper) (mode : Mode) :
    (c.execute b mode).2.engine.connection.store = c.engine.connection.store ∨
      b.Lands c.engine.connection.store (c.execute b mode).2.engine.connection.store ∧
        (c.execute b mode).1 =
          if mode.merges then .error (.backend (.missingColumn "key")) else .ok (.rows .empty) := by
  cases hplan : c.planned b mode with
  | error e =>
    exact Or.inl (congrArg Connection.store (c.refused_execute hplan).2.engine.connection)
  | ok plan =>
    obtain ⟨shard, statement, rfl⟩ := Binder.single_of_upsert hu hplan
    have hmakes := Binder.makes_of_plan hplan statement List.mem_cons_self
    -- the store is left as the one statement leaves it, whatever becomes of its answer
    have hstore : (c.execute b mode).2.engine.connection.store =
        (MemoryStore.answer statement c.engine.connection.store).2 :=
      (c.execute_of_not_walks hplan rfl).2
    rw [hstore]
    rcases MemoryStore.answer_cases hmakes c.engine.connection.store with ⟨hlands, hrows⟩ | hkept
    · refine Or.inr ⟨hlands, ?_⟩
      have houtcomes : (trace c.engine.connection.store
          (Plan.single shard statement).statements).map Exchange.outcome =
            [RawRows.empty].map Outcome.rows := congrArg (fun o => [o]) hrows
      rw [c.execute_of_rows hplan rfl houtcomes, hm, Event.apply_empty]
    · exact Or.inl hkept

/-- What a retryable error of a write says about the store, in each mode and whatever the
    binder, the state of the rotation, the tables and their failures. Nothing has been
    written, except where the answer was decoded and the error is that it has no keys: then
    the write may have landed. And a write that lands has this error in every such mode, and
    none in the others. -/
theorem retryable_upsert (c : Client MemoryStore Event) {b : Binder Event}
    (hu : b.query.upsert = true) (hm : b.query.mapper = Event.mapper) (mode : Mode) :
    (∀ e, (c.execute b mode).1 = .error e → e.isRetryable = true →
      (c.execute b mode).2.engine.connection.store = c.engine.connection.store ∨
        mode.merges = true ∧ e = .backend (.missingColumn "key") ∧
          b.Lands c.engine.connection.store (c.execute b mode).2.engine.connection.store) ∧
    (b.Lands c.engine.connection.store (c.execute b mode).2.engine.connection.store →
      (c.execute b mode).1 =
        if mode.merges then .error (.backend (.missingColumn "key")) else .ok (.rows .empty)) := by
  rcases c.upsert_cases hu hm mode with hkept | ⟨hlands, hresult⟩
  · exact ⟨fun _ _ _ => Or.inl hkept, fun hlands => absurd hkept hlands.ne⟩
  · refine ⟨fun e he _ => Or.inr ?_, fun _ => hresult⟩
    rw [hresult] at he
    split_ifs at he with hmerges
    · cases he
      exact ⟨hmerges, rfl, hlands⟩

/-- A writer in the second hour, where the table of the hour is out of order. -/
def blockedWriter : Client MemoryStore Event :=
  .fresh ((MemoryStore.empty 3).fail 1 "disk full") (.ofMillis 6400000)

/-- What the writer has written before it may retry is nothing. -/
theorem retryable_upsert_blocked :
    (blockedWriter.execute eventWrite .all).1 = .error (.backend (.reported "disk full")) ∧
      (blockedWriter.execute eventWrite .all).2.engine.connection.store =
        (MemoryStore.empty 3).fail 1 "disk full" := by
  have he : (blockedWriter.execute eventWrite .all).1 =
      .error (.backend (.reported "disk full")) := rfl
  refine ⟨he, ?_⟩
  rcases (retryable_upsert blockedWriter (b := eventWrite) rfl rfl .all).1 _ he rfl with
    hkept | ⟨-, hcolumn, -⟩
  · exact hkept
  · cases hcolumn

/-- The writer in the second hour, with all tables in order. -/
def promptWriter : Client MemoryStore Event := .fresh (.empty 3) (.ofMillis 6400000)

/-- The write fails with a retryable error, and its event has been stored. Once it is
    retried, the event is stored twice. -/
theorem retryable_though_written :
    newEvent.build = .ok eventWrite.query ∧ eventWrite.query.upsert = true ∧
      eventWrite.query.mapper = Event.mapper ∧
      let (first, written) := promptWriter.execute eventWrite .all
      let (_, retried) := written.execute eventWrite .all
      ∃ e, first = .error e ∧ e.isRetryable = true ∧
        promptWriter.engine.connection.store.tables = [{}, {}, {}] ∧
        written.engine.connection.store.tables = [{}, { events := [⟨"a", "2"⟩] }, {}] ∧
        retried.engine.connection.store.tables =
          [{}, { events := [⟨"a", "2"⟩, ⟨"a", "2"⟩] }, {}] :=
  ⟨rfl, rfl, rfl, _, rfl, rfl, rfl, rfl, rfl⟩

end Client

end RotatedShards
