import RotatedShards.Proofs.Execution.Counters
import RotatedShards.Proofs.Execution.Dispatch
import RotatedShards.Proofs.Execution.Settlement

/-!
# Agreement of reads

Reads that differ in how they go through the shards, or in what they make of the objects
that they find, agree on what there is. A sequential read for the first object asks fewer
shards than a parallel one and so meets fewer failures, but never more. Where all objects
can be read, the first one and the only one are those of the list of all.

Results:
* `Client.sequential_parallel_agree`: sequential and parallel reads for the first object.
* `Client.strategies_agree`: reads for all objects, for the first one and for the only one.
-/

namespace RotatedShards

variable {σ α : Type}

/-! ## Sequential and parallel reads -/

/-- The query with a given way through the shards for reads for the first object. -/
def Query.reading (q : Query α) (mode : FirstPresent) : Query α :=
  { q with options := { q.options with firstPresent := mode } }

/-- The same bindings of the query with a given way through the shards. -/
def Binder.reading (b : Binder α) (mode : FirstPresent) : Binder α :=
  { b with query := b.query.reading mode }

theorem Exchange.untilDecided_isPrefix (mapper : RowMapper α) (xs : List Exchange) :
    untilDecided mapper xs <+: xs := by
  induction xs with
  | nil => exact List.prefix_rfl
  | cons x rest ih =>
    rw [untilDecided]
    split_ifs
    · exact ⟨rest, rfl⟩
    · exact List.cons_prefix_cons.mpr ⟨rfl, ih⟩

/-- A sequential read agrees with a parallel one, given the result of each and the
    exchanges that it adds: if the store answers all planned statements with rows, the
    results are the same; what the parallel read finds the sequential one finds; where the
    sequential read fails the parallel one does; and the sequential read asks first what
    the parallel one asks, and nothing else. -/
structure FirstPresent.Agree (sequential parallel : Except QueryError (Answer α))
    (xs ys : List Exchange) : Prop where
  eq_of_rows : (∀ y ∈ ys, ∃ rows, y.outcome = .rows rows) → sequential = parallel
  ok_of_parallel : ∀ answer, parallel = .ok answer → sequential = .ok answer
  error_of_sequential : ∀ e, sequential = .error e → ∃ e', parallel = .error e'
  isPrefix : xs <+: ys

/-- It is enough that the results are the same where all statements have rows, and that
    the parallel read has a result only there. -/
theorem FirstPresent.Agree.of_rows {sequential parallel : Except QueryError (Answer α)}
    {xs ys : List Exchange} (heq : ∀ rows : List RawRows,
      ys.map Exchange.outcome = rows.map .rows → sequential = parallel)
    (hok : ∀ answer, parallel = .ok answer →
      ∃ rows : List RawRows, ys.map Exchange.outcome = rows.map .rows)
    (hfirst : xs <+: ys) : Agree sequential parallel xs ys where
  eq_of_rows h := by
    choose! rows hrows using h
    refine heq (ys.map rows) ?_
    rw [List.map_map]
    exact List.map_congr_left hrows
  ok_of_parallel answer h := by
    obtain ⟨rows, hrows⟩ := hok answer h
    rw [heq rows hrows, h]
  error_of_sequential e h := by
    cases hp : parallel with
    | error e' => exact ⟨e', rfl⟩
    | ok answer =>
      obtain ⟨rows, hrows⟩ := hok answer hp
      rw [heq rows hrows, hp] at h
      cases h
  isPrefix := hfirst

namespace Engine

variable [Backend σ]

/-- Given a plan, or the reason why there is none, a sequential read agrees with a parallel
    one, which asks all shards of the plan. -/
theorem serve_agree (e : Engine σ α) {q : Query α} (hq : q.mapper.Plain)
    (plan : Except QueryError Plan) :
    ∃ xs ys,
      (e.serve (q.reading .sequential) .one plan).2.connection.exchanges =
        e.connection.exchanges ++ xs ∧
      (e.serve (q.reading .parallel) .one plan).2.connection.exchanges =
        e.connection.exchanges ++ ys ∧
      (∀ p, plan = .ok p → ys.map Exchange.statement = p.statements) ∧
      FirstPresent.Agree (e.serve (q.reading .sequential) .one plan).1
        (e.serve (q.reading .parallel) .one plan).1 xs ys := by
  cases plan with
  | error error =>
    obtain ⟨hsequential, hxs, -, -, -⟩ := e.serve_rejected (q.reading .sequential) .one error
    obtain ⟨hparallel, hys, -, -, -⟩ := e.serve_rejected (q.reading .parallel) .one error
    refine ⟨[], [], by rw [hxs, List.append_nil], by rw [hys, List.append_nil], by simp, ?_⟩
    rw [hsequential, hparallel]
    exact .of_rows (fun _ _ => rfl) (by simp) List.prefix_rfl
  | ok p =>
    have hwalks : (q.reading .parallel).walks .one p = false := by cases p <;> rfl
    obtain ⟨hparallel, hys⟩ := e.start_wait_of_not_walks (q.reading .parallel) .one p hwalks
    obtain ⟨xs, hxs, hfirst⟩ : ∃ xs,
        (e.serve (q.reading .sequential) .one (.ok p)).2.connection.exchanges =
          e.connection.exchanges ++ xs ∧ xs <+: trace e.connection.store p.statements := by
      cases hw : (q.reading .sequential).walks .one p with
      | true =>
        exact ⟨_, (e.start_wait_of_walks _ _ _ hw).2, Exchange.untilDecided_isPrefix _ _⟩
      | false => exact ⟨_, (e.start_wait_of_not_walks _ _ _ hw).2, List.prefix_rfl⟩
    refine ⟨xs, _, hxs, hys, ?_, .of_rows (fun rows hrows => ?_) (fun answer h => ?_) hfirst⟩
    · rintro _ ⟨⟩
      exact map_statement_trace _ _
    · exact (e.serve_one_of_rows (q := q.reading .sequential) hq p hrows).trans
        (e.serve_one_of_rows (q := q.reading .parallel) hq p hrows).symm
    · obtain ⟨rows, hrows, -⟩ := Gathering.rows_of_settle (hparallel.symm.trans h)
      exact ⟨rows, (e.outcomes_gathering _ _ p).symm.trans hrows⟩

end Engine

namespace Client

variable [Backend σ]

/-- For the same bindings and the same answers of the store, a sequential read for the first
    object agrees with a parallel one, which asks all shards of the plan. -/
theorem sequential_parallel_agree (c : Client σ α) {b : Binder α} (hb : b.query.mapper.Plain) :
    ∃ xs ys,
      (c.execute (b.reading .sequential) .one).2.engine.connection.exchanges =
        c.engine.connection.exchanges ++ xs ∧
      (c.execute (b.reading .parallel) .one).2.engine.connection.exchanges =
        c.engine.connection.exchanges ++ ys ∧
      (∀ plan, b.plan .one (b.query.source.stateAt (c.now b.query)) = .ok plan →
        ys.map Exchange.statement = plan.statements) ∧
      FirstPresent.Agree (c.execute (b.reading .sequential) .one).1
        (c.execute (b.reading .parallel) .one).1 xs ys := by
  obtain ⟨hsequential, hengine⟩ := c.execute_eq_serve (b.reading .sequential) .one
  obtain ⟨hparallel, hengine'⟩ := c.execute_eq_serve (b.reading .parallel) .one
  rw [hsequential, hengine, hparallel, hengine']
  -- the plan does not depend on the way through the shards
  exact c.engine.serve_agree hb (b.plan .one (b.query.source.stateAt (c.now b.query)))

/-- The read of the first event of three hours, ready to be bound. -/
def newestRead : Query (List Value) := Definition.newestEvent.build.toOption.get rfl

/-- A client in the third hour, which has no events so far, while the table of the first
    hour is lost. -/
def lostFirstHour : Client ScriptedStore (List Value) :=
  .fresh ⟨[.failed (.reported "table lost"), .rows ⟨["key"], [[.text "b"]]⟩, .rows .empty]⟩
    (.ofMillis 10000000)

/-- The sequential read finds the event of the second hour and stops there; the parallel
    one asks for those of the first hour too, and fails. -/
theorem sequential_parallel_agree_lostFirstHour :
    Definition.newestEvent.build = .ok newestRead ∧ newestRead.mapper.Plain ∧
      ∃ xs ys, Exchange.shards xs = [⟨2⟩, ⟨1⟩] ∧ Exchange.shards ys = [⟨2⟩, ⟨1⟩, ⟨0⟩] ∧
        FirstPresent.Agree (.ok (.item (some [.text "b"])))
          (.error (.backend (.reported "table lost")) : Except QueryError (Answer (List Value)))
          xs ys := by
  obtain ⟨xs, ys, hxs, hys, -, hagree⟩ := sequential_parallel_agree lostFirstHour
    (b := .fresh 0 newestRead) fun _ => rfl
  exact ⟨rfl, fun _ => rfl, xs, ys, (congrArg Exchange.shards hxs).symm,
    (congrArg Exchange.shards hys).symm, hagree⟩

end Client

/-! ## Ways of merging -/

/-- Modes that both merge, or both do not, have the same plan. -/
theorem Binder.plan_congr_merges (b : Binder α) {mode mode' : Mode}
    (h : mode.merges = mode'.merges) (state : Except QueryError RotationState) :
    b.plan mode state = b.plan mode' state := by
  simp only [Binder.plan, h]

/-- What a read for the only object results in, given all that there are: nothing, the only
    one, or that there are too many. -/
def Answer.only (query : String) : List α → Except QueryError (Answer α)
  | [] => .ok (.item none)
  | [a] => .ok (.item (some a))
  | found => .error (.cardinalityViolation query found.length)

theorem Merging.apply_atMostOne {mapper : RowMapper α} {rows : List RawRows}
    {parts : List (List α)} (h : rows.mapM mapper.decodeMany = .ok parts) (query : String) :
    Merging.atMostOne.apply mapper query rows = Answer.only query parts.flatten := by
  simp only [Merging.apply, h]
  show (Merge.atMostOne query parts).map Answer.item = _
  rw [Merge.atMostOne]
  match parts.flatten with
  | [] => rfl
  | [a] => rfl
  | a :: a' :: rest => rfl

theorem Merging.isSome_surplus?_atMostOne {mapper : RowMapper α} {rows : List RawRows}
    {parts : List (List α)} (h : rows.mapM mapper.decodeMany = .ok parts) :
    (Merging.atMostOne.surplus? mapper rows).isSome = decide (1 < parts.flatten.length) := by
  simp only [surplus?, h]
  show (Merge.surplus? parts).isSome = _
  by_cases hlt : 1 < parts.flatten.length
  · rw [Merge.surplus?, if_pos hlt, decide_eq_true hlt]
    rfl
  · rw [Merge.surplus?, if_neg hlt, decide_eq_false hlt]
    rfl

namespace Client

variable [Backend σ]

/-- A read for all objects that has a result has rows of all shards of its plan, whose
    objects come one after the other. -/
theorem parts_of_execute_all {c : Client σ α} {b : Binder α} {found : List α}
    (h : (c.execute b .all).1 = .ok (.items found)) :
    ∃ (plan : Plan) (rows : List RawRows) (parts : List (List α)),
      b.plan .all (b.query.source.stateAt (c.now b.query)) = .ok plan ∧
      (trace c.engine.connection.store plan.statements).map Exchange.outcome = rows.map .rows ∧
      rows.mapM b.query.mapper.decodeMany = .ok parts ∧ found = parts.flatten := by
  cases hplan : b.plan .all (b.query.source.stateAt (c.now b.query)) with
  | error error =>
    rw [(c.execute_eq_serve b .all).1, hplan, (c.engine.serve_rejected b.query .all error).1] at h
    cases h
  | ok plan =>
    have hwalks : b.query.walks .all plan = false := by cases plan <;> rfl
    have hresult := (c.execute_gathers b hplan (by decide) hwalks).1
    obtain ⟨rows, parts, hrows, hparts, hfound⟩ :=
      Gathering.parts_of_settle_all rfl (hresult.symm.trans h)
    exact ⟨plan, rows, parts, rfl, (c.engine.outcomes_gathering b.query .all plan).symm.trans hrows,
      hparts, hfound⟩

/-- Where all objects can be read, a read for the first one finds the first of them, and a
    read for the only one finds that, nothing, or that there are too many. Only in that
    last case does it count a violation, and one, besides those of other reads for at most
    one object that are settled until it is. -/
theorem strategies_agree (c : Client σ α) {b : Binder α} (hb : b.query.mapper.Plain)
    {found : List α} (h : (c.execute b .all).1 = .ok (.items found)) :
    (c.execute b .one).1 = .ok (.item found.head?) ∧
    (c.execute b .atMostOne).1 = Answer.only b.query.text found ∧
    (c.execute b .atMostOne).2.engine.stats.violations =
      c.engine.stats.violations +
        Gathering.violationsOf
          (c.engine.background (c.execute b .atMostOne).2.engine.time) +
        if 1 < found.length then 1 else 0 := by
  obtain ⟨plan, rows, parts, hplan, hrows, hparts, rfl⟩ := parts_of_execute_all h
  have hone := (b.plan_congr_merges (by rfl : Mode.one.merges = Mode.all.merges) _).trans hplan
  have hmost :=
    (b.plan_congr_merges (by rfl : Mode.atMostOne.merges = Mode.all.merges) _).trans hplan
  have hwalks : b.query.walks .atMostOne plan = false := by cases plan <;> rfl
  obtain ⟨hresult, -, -, hviolations⟩ := c.execute_gathers b hmost (by decide) hwalks
  have happly := Merging.apply_atMostOne hparts b.query.text
  have hsettle := Gathering.settle_of_rows
    ((c.engine.outcomes_gathering b.query .atMostOne plan).trans hrows)
  refine ⟨?_, ?_, ?_⟩
  · rw [(c.execute_eq_serve b .one).1, hone, Engine.serve_one_of_rows _ hb plan hrows,
      map_eq_map_ok_of_mapM hparts, Merge.firstPresent_map_ok]
    rfl
  · rw [hresult, hsettle, ← happly]
    rfl
  · have hsurplus : (c.engine.gathering b.query .atMostOne plan).settle.surplus.isSome =
        decide (1 < parts.flatten.length) := by
      rw [hsettle, ← Merging.isSome_surplus?_atMostOne hparts]
      rfl
    rw [hviolations, hsurplus]
    simp only [decide_eq_true_eq]

/-- The first two hours have an event each: the first one is that of the second hour, and
    there is no only one. -/
theorem strategies_agree_thirdHour :
    newestRead.mapper.Plain ∧
      (Definition.thirdHour.execute (.fresh 0 newestRead) .all).1 =
        .ok (.items [[.text "b"], [.text "a"]]) ∧
      (Definition.thirdHour.execute (.fresh 0 newestRead) .one).1 =
        .ok (.item (some [.text "b"])) ∧
      (Definition.thirdHour.execute (.fresh 0 newestRead) .atMostOne).1 =
        .error (.cardinalityViolation "SELECT * FROM events" 2) ∧
      (Definition.thirdHour.execute (.fresh 0 newestRead) .atMostOne).2.engine.stats.violations =
        1 := by
  have hall : (Definition.thirdHour.execute (.fresh 0 newestRead) .all).1 =
      .ok (.items [[.text "b"], [.text "a"]]) := rfl
  obtain ⟨hone, hmost, hviolations⟩ := strategies_agree Definition.thirdHour (fun _ => rfl) hall
  -- nothing else has been started, and so nothing else is counted
  rw [Engine.background_eq_nil (by rintro task ⟨⟩)] at hviolations
  exact ⟨fun _ => rfl, hall, hone, hmost, hviolations⟩

end Client

end RotatedShards
