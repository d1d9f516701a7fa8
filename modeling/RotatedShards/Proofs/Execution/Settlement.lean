import RotatedShards.Proofs.Except
import RotatedShards.Proofs.Execution.Turns

/-!
# Settlements

What a gathering results in, by how its statements turned out: a task that comes down, the
first failure in the order of the plan, or what is made of the rows of all shards. The
objects of all shards determine what each way of merging makes of them.

Results:
* `received_cases`, `Gathering.settle_cases`: how a gathering is settled.
* `Gathering.parts_of_settle_all`: the objects of each shard, given those of all.
* `Engine.serve_one_of_rows`: a read for the first object whose statements all have rows.
-/

namespace RotatedShards

variable {σ α : Type}

/-- The mapper has no way of its own to the first object: it decodes all rows to get it. -/
def RowMapper.Plain (mapper : RowMapper α) : Prop :=
  ∀ rows, mapper.decodeOptional rows = (mapper.decodeMany rows).map List.head?

/-! ## First objects -/

namespace Merge

variable {ε : Type}

theorem firstPresent_singleton (found : Except ε (List α)) :
    firstPresent [found] = found.map List.head? := by
  match found with
  | .error e => rfl
  | .ok [] => rfl
  | .ok (a :: rest) => rfl

theorem firstPresent_map_ok (parts : List (List α)) :
    firstPresent (parts.map (Except.ok : List α → Except ε (List α))) =
      .ok parts.flatten.head? := by
  induction parts with
  | nil => rfl
  | cons part rest ih =>
    cases part with
    | nil => exact ih
    | cons a part => rfl

end Merge

/-! ## Outcomes -/

theorem received_rows_cons (rows : RawRows) (outcomes : List Outcome) :
    received (.rows rows :: outcomes) = (received outcomes).map (rows :: ·) := by
  rw [received, List.mapM_cons]
  show Except.bind (received outcomes) _ = _
  cases received outcomes <;> rfl

theorem received_map_rows (rows : List RawRows) :
    received (rows.map Outcome.rows) = .ok rows := by
  induction rows with
  | nil => rfl
  | cons first rows ih => rw [List.map_cons, received_rows_cons, ih]; rfl

/-- Unless a task comes down, there are the rows of all shards, or a first failure, which
    is what is received. -/
theorem received_cases {outcomes : List Outcome} (h : outcomes.any Outcome.isCrash = false) :
    (∃ fault, outcomes.find? Outcome.isFailure = some (.failed fault) ∧
      received outcomes = .error (.backend fault)) ∨
    ∃ rows : List RawRows, outcomes = rows.map Outcome.rows := by
  induction outcomes with
  | nil => exact Or.inr ⟨[], rfl⟩
  | cons outcome rest ih =>
    rw [List.any_cons, Bool.or_eq_false_iff] at h
    cases outcome with
    | crashed => cases h.1
    | failed fault => exact Or.inl ⟨fault, rfl, rfl⟩
    | rows first =>
      rcases ih h.2 with ⟨fault, hfind, hreceived⟩ | ⟨rows, rfl⟩
      · exact Or.inl ⟨fault, hfind, by rw [received_rows_cons, hreceived]; rfl⟩
      · exact Or.inr ⟨first :: rows, rfl⟩

/-! ## Gatherings -/

namespace Gathering

theorem settle_of_rows {g : Gathering α} {rows : List RawRows} (h : g.outcomes = rows.map .rows) :
    g.settle =
      { result := g.merging.apply g.mapper g.query rows
        surplus := g.merging.surplus? g.mapper rows } := by
  have hcrash : (rows.map Outcome.rows).any Outcome.isCrash = false := by simp [Outcome.isCrash]
  have hcount : (rows.map Outcome.rows).countP Outcome.isFailure = 0 := by
    simp [Outcome.isFailure]
  simp only [settle, h, hcrash, hcount, received_map_rows]
  rfl

/-- How a gathering is settled: its task comes down, or it has the first failure, or what
    is made of the rows of all shards. -/
theorem settle_cases (g : Gathering α) :
    (g.outcomes.any Outcome.isCrash = true ∧
      g.settle = { result := .error (.worker .panicked) }) ∨
    (g.outcomes.any Outcome.isCrash = false ∧
      ∃ fault, g.outcomes.find? Outcome.isFailure = some (.failed fault) ∧
        g.settle = { result := .error (.backend fault)
                     failures := g.outcomes.countP Outcome.isFailure }) ∨
    ∃ rows : List RawRows, g.outcomes = rows.map .rows ∧
      g.settle =
        { result := g.merging.apply g.mapper g.query rows
          surplus := g.merging.surplus? g.mapper rows } := by
  cases hcrash : g.outcomes.any Outcome.isCrash with
  | true => exact Or.inl ⟨rfl, by rw [settle, if_pos hcrash]⟩
  | false =>
    rcases received_cases hcrash with ⟨fault, hfind, hreceived⟩ | ⟨rows, hrows⟩
    · refine Or.inr (Or.inl ⟨rfl, fault, hfind, ?_⟩)
      rw [settle, if_neg (by rw [hcrash]; exact Bool.false_ne_true), hreceived]
      rfl
    · exact Or.inr (Or.inr ⟨rows, hrows, settle_of_rows hrows⟩)

theorem rows_of_settle {g : Gathering α} {answer : Answer α} (h : g.settle.result = .ok answer) :
    ∃ rows : List RawRows, g.outcomes = rows.map .rows ∧
      g.merging.apply g.mapper g.query rows = .ok answer := by
  rcases g.settle_cases with ⟨-, hs⟩ | ⟨-, fault, -, hs⟩ | ⟨rows, hrows, hs⟩
  · rw [hs] at h
    cases h
  · rw [hs] at h
    cases h
  · rw [hs] at h
    exact ⟨rows, hrows, h⟩

/-- Where all objects are read, those of each shard come one after the other. -/
theorem parts_of_settle_all {g : Gathering α} (hg : g.merging = .all) {found : List α}
    (h : g.settle.result = .ok (.items found)) :
    ∃ (rows : List RawRows) (parts : List (List α)), g.outcomes = rows.map .rows ∧
      rows.mapM g.mapper.decodeMany = .ok parts ∧ found = parts.flatten := by
  obtain ⟨rows, hrows, happly⟩ := rows_of_settle h
  rw [hg] at happly
  obtain ⟨parts, hparts, hfound⟩ := map_eq_ok_iff.mp happly
  cases hfound
  exact ⟨rows, parts, hrows, hparts, rfl⟩

end Gathering

/-! ## Reads for the first object -/

/-- A read through exchanges that all have rows finds what their objects yield first. -/
theorem Exchange.firstRead_of_rows {mapper : RowMapper α} (hm : mapper.Plain)
    {xs : List Exchange} {rows : List RawRows} (h : xs.map Exchange.outcome = rows.map .rows) :
    firstRead mapper xs = Merge.firstPresent (rows.map mapper.decodeMany) := by
  induction xs generalizing rows with
  | nil =>
    rw [List.map_nil, eq_comm, List.map_eq_nil_iff] at h
    rw [h]
    rfl
  | cons x rest ih =>
    cases rows with
    | nil => cases h
    | cons first rows =>
      rw [List.map_cons, List.map_cons, List.cons.injEq] at h
      have hread : x.read mapper = (mapper.decodeMany first).map List.head? := by
        have hx : x.response.outcome = .rows first := h.1
        rw [read, hx, ← hm]
      rw [firstRead, hread, List.map_cons]
      -- the walk goes on exactly where the scan of the decoded shards does
      cases mapper.decodeMany first with
      | error e => rfl
      | ok part =>
        cases part with
        | nil => exact ih h.2
        | cons a part => rfl

namespace Engine

variable [Backend σ]

theorem outcomes_gathering (e : Engine σ α) (q : Query α) (mode : Mode) (plan : Plan) :
    (e.gathering q mode plan).outcomes =
      (trace e.connection.store plan.statements).map Exchange.outcome :=
  List.map_map

/-- However a read for the first object goes through the shards: if all of them have rows,
    it finds what their objects yield first. -/
theorem serve_one_of_rows (e : Engine σ α) {q : Query α} (hq : q.mapper.Plain) (plan : Plan)
    {rows : List RawRows}
    (h : (trace e.connection.store plan.statements).map Exchange.outcome = rows.map .rows) :
    (e.serve q .one (.ok plan)).1 =
      (Merge.firstPresent (rows.map q.mapper.decodeMany)).map .item := by
  have hsettle : (e.gathering q .one plan).settle.result =
      (Mode.one.merging plan).apply q.mapper q.text rows :=
    congrArg Settlement.result
      (Gathering.settle_of_rows ((e.outcomes_gathering q .one plan).trans h))
  cases plan with
  | single shard statement =>
    rw [(e.serve_single q .one shard statement).1, hsettle]
    obtain ⟨first, rfl⟩ : ∃ first, rows = [first] := by
      have hlength := congrArg List.length h
      rw [List.length_map, List.length_map] at hlength
      exact List.length_eq_one_iff.mp hlength.symm
    rw [List.map_cons, List.map_nil, Merge.firstPresent_singleton, ← hq]
    rfl
  | fanOut shards statements =>
    rw [(e.serve_fanOut q rfl shards statements).1]
    split_ifs
    · exact congrArg (Except.map Answer.item) (Exchange.firstRead_of_rows hq h)
    · exact hsettle

end Engine

end RotatedShards
