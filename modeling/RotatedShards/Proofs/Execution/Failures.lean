import RotatedShards.Proofs.Execution.Turns
import RotatedShards.Proofs.Query.Planning

/-!
# Failures of executions

Where the error of an execution comes from: its plan, the store, the task that waits
for the store, the mapper, or too many objects. What is wrong with a definition comes
out when its query is built and not when it is executed.

Results:
* `Engine.serve_error_cases`: the errors of an execution that has a plan.
* `Client.configuration_error_cases`: the configuration errors of an execution.
* `Definition.configuration_faults_of_build`: those that are left once a query is built.
-/

namespace RotatedShards

variable {σ α : Type}

/-! ## Merging -/

/-- The mapper fails with an error on some rows. -/
def RowMapper.FailsWith (mapper : RowMapper α) (e : QueryError) : Prop :=
  ∃ rows, mapper.decodeMany rows = .error e ∨ mapper.decodeOptional rows = .error e

theorem RowMapper.failsWith_of_mapM {mapper : RowMapper α} {shards : List RawRows} {e : QueryError}
    (h : shards.mapM mapper.decodeMany = .error e) : mapper.FailsWith e := by
  obtain ⟨rows, -, hrows⟩ := mapM_eq_error h
  exact ⟨rows, Or.inl hrows⟩

theorem received_eq_error {outcomes : List Outcome} {e : QueryError}
    (h : received outcomes = .error e) :
    (∃ fault, e = .backend fault) ∨ e = .worker .panicked := by
  obtain ⟨outcome, -, ho⟩ := mapM_eq_error h
  cases outcome with
  | rows rows => cases ho
  | failed fault =>
    cases ho
    exact Or.inl ⟨fault, rfl⟩
  | crashed =>
    cases ho
    exact Or.inr rfl

theorem Merge.mem_of_firstPresent_eq_error {ε : Type} {shards : List (Except ε (List α))} {e : ε}
    (h : Merge.firstPresent shards = .error e) : .error e ∈ shards := by
  fun_induction Merge.firstPresent shards with
  | case1 => cases h
  | case2 e' rest =>
    cases h
    exact List.mem_cons_self
  | case3 rest ih => exact List.mem_cons_of_mem _ (ih h)
  | case4 a found rest => cases h

/-- Merging fails where the mapper does, or since there are too many objects. Handing
    on raw rows does not fail. -/
theorem Merging.apply_eq_error {m : Merging} {mapper : RowMapper α} {query : String}
    {shards : List RawRows} {e : QueryError} (h : m.apply mapper query shards = .error e) :
    m ≠ .rows ∧ (mapper.FailsWith e ∨ ∃ count, e = .cardinalityViolation query count) := by
  cases m with
  | rows => cases h
  | first =>
    simp only [apply] at h
    cases hs : shards.head? with
    | none =>
      rw [hs] at h
      cases h
    | some rows =>
      rw [hs] at h
      exact ⟨by decide, Or.inl ⟨rows, Or.inr (map_eq_error_iff.mp h)⟩⟩
  | all => exact ⟨by decide, Or.inl (RowMapper.failsWith_of_mapM (map_eq_error_iff.mp h))⟩
  | firstPresent =>
    have hmem := Merge.mem_of_firstPresent_eq_error (map_eq_error_iff.mp h)
    obtain ⟨rows, -, hrows⟩ := List.mem_map.mp hmem
    exact ⟨by decide, Or.inl ⟨rows, Or.inl hrows⟩⟩
  | atMostOne =>
    refine ⟨by decide, ?_⟩
    rcases bind_eq_error_iff.mp h with hm | ⟨found, -, hmerge⟩
    · exact Or.inl (RowMapper.failsWith_of_mapM hm)
    · have hmerge := map_eq_error_iff.mp hmerge
      simp only [Merge.atMostOne] at hmerge
      split_ifs at hmerge
      cases hmerge
      exact Or.inr ⟨_, rfl⟩

/-- The errors of an execution that has a plan: of the store, of the task that waits for
    it, of the mapper in a mode that decodes, or since there are too many objects. -/
inductive ServiceError (q : Query α) (mode : Mode) : QueryError → Prop
  | backend (fault : BackendFault) : ServiceError q mode (.backend fault)
  | panicked : ServiceError q mode (.worker .panicked)
  | mapper {e : QueryError} (hm : mode.merges = true) (h : q.mapper.FailsWith e) :
      ServiceError q mode e
  | cardinality (count : Nat) : ServiceError q mode (.cardinalityViolation q.text count)

theorem Exchange.serviceError_of_firstRead {q : Query α} {mode : Mode} (hm : mode.merges = true)
    {xs : List Exchange} {e : QueryError} (h : Exchange.firstRead q.mapper xs = .error e) :
    ServiceError q mode e := by
  induction xs with
  | nil => cases h
  | cons x rest ih =>
    rw [firstRead] at h
    split at h
    · exact ih h
    · unfold read at h
      split at h
      · rename_i rows _
        exact .mapper hm ⟨rows, Or.inr h⟩
      · cases h
        exact .backend _
      · cases h
        exact .panicked

theorem Mode.merges_of_merging_ne_rows {mode : Mode} {plan : Plan}
    (h : mode.merging plan ≠ .rows) : mode.merges = true := by
  cases mode with
  | sync => exact absurd rfl h
  | async => exact absurd rfl h
  | all => rfl
  | one => rfl
  | atMostOne => rfl

namespace Engine

variable [Backend σ]

theorem serviceError_of_settle {e : Engine σ α} {q : Query α} {mode : Mode} {plan : Plan}
    {error : QueryError} (h : (e.gathering q mode plan).settle.result = .error error) :
    ServiceError q mode error := by
  by_cases hcrash : (e.gathering q mode plan).outcomes.any Outcome.isCrash = true
  · rw [Gathering.settle, if_pos hcrash] at h
    cases h
    exact .panicked
  · rw [Gathering.settle, if_neg hcrash] at h
    rcases bind_eq_error_iff.mp h with hr | ⟨rows, -, ha⟩
    · rcases received_eq_error hr with ⟨fault, rfl⟩ | rfl
      · exact .backend fault
      · exact .panicked
    · obtain ⟨hne, hm | ⟨count, rfl⟩⟩ := Merging.apply_eq_error ha
      · exact .mapper (Mode.merges_of_merging_ne_rows hne) hm
      · exact .cardinality count

/-- The errors of an execution that has a plan for one shard, or for several in a mode
    that merges. -/
theorem serve_error_cases {e : Engine σ α} {q : Query α} {mode : Mode} {plan : Plan}
    {error : QueryError} (hm : mode.merges = true ∨ ∃ shard statement, plan = .single shard statement)
    (h : (e.serve q mode (.ok plan)).1 = .error error) : ServiceError q mode error := by
  cases plan with
  | single shard statement =>
    rw [(e.serve_single q mode shard statement).1] at h
    exact serviceError_of_settle h
  | fanOut shards statements =>
    have hm : mode.merges = true := by
      rcases hm with hm | ⟨_, _, hs⟩
      · exact hm
      · cases hs
    rw [(e.serve_fanOut q hm shards statements).1] at h
    split_ifs at h
    · exact Exchange.serviceError_of_firstRead hm (map_eq_error_iff.mp h)
    · exact serviceError_of_settle h

end Engine

/-! ## Executions of built queries -/

namespace Client

variable [Backend σ]

/-- The configuration errors of an execution are those of its plan and, in the modes
    that decode, those of its mapper. -/
theorem configuration_error_cases (c : Client σ α) (b : Binder α) (mode : Mode)
    {cause : Misconfiguration} (h : (c.execute b mode).1 = .error (.configuration cause)) :
    b.plan mode (b.query.source.stateAt (c.now b.query)) = .error (.configuration cause) ∨
      mode.merges = true ∧ b.query.mapper.FailsWith (.configuration cause) := by
  rw [(c.execute_eq_serve b mode).1] at h
  cases hplan : b.plan mode (b.query.source.stateAt (c.now b.query)) with
  | error error =>
    rw [hplan, (c.engine.serve_rejected b.query mode error).1] at h
    cases h
    exact Or.inl rfl
  | ok plan =>
    rw [hplan] at h
    cases Engine.serve_error_cases (Binder.merges_or_single_of_plan hplan) h with
    | mapper hm hfails => exact Or.inr ⟨hm, hfails⟩

end Client

namespace Definition

/-- Whatever calls are made on a binder of a query that was built, for a fixed source or
    one that goes by the clock: its plans never fail for a cause that building rules
    out. They fail for a configuration only where the source has no state, or since the
    only shard in range of an unpinned read is left out; and executions fail for one
    only where their plan does, or their mapper. -/
theorem configuration_faults_of_build {d : Definition α} {q : Query α} (h : d.build = .ok q)
    (hd : ∀ source, d.source = some source → source.FixedOrClock) {b : Binder α} {id : Nat}
    {calls : List Binder.Call} (hb : (Binder.fresh id q).after calls = b) (mode : Mode) :
    (∀ now cause, b.plan mode (q.source.stateAt now) = .error (.configuration cause) →
      cause.ruledOut = false ∧ b.PlanningFault (q.source.stateAt now) cause) ∧
    (∀ (σ : Type) [Backend σ] (c : Client σ α) cause,
      (c.execute b mode).1 = .error (.configuration cause) →
        b.plan mode (q.source.stateAt (c.now q)) = .error (.configuration cause) ∨
          mode.merges = true ∧ q.mapper.FailsWith (.configuration cause)) := by
  have hq := build_sound h
  have hsource := build_source h hd
  obtain ⟨rfl, hsound⟩ := hb ▸ Binder.sound_after (Binder.sound_fresh hq id) calls
  refine ⟨fun now cause hplan => ?_, fun σ _ c cause herror => ?_⟩
  · have hfault := Binder.planningFault_of_plan hsound (fun _ => hq.numShards_eq hsource) hplan
    exact ⟨hfault.ruledOut_eq_false hsource, hfault⟩
  · exact c.configuration_error_cases b mode herror

/-- A read of the current hour only, which is left out once its rows have expired. -/
def latestHour : Definition Nat :=
  { text := "SELECT * FROM events", mapper := { decodeMany := fun rows => .ok [rows.count] }
    statements := some [⟨"SELECT * FROM events_0", 0⟩, ⟨"SELECT * FROM events_1", 0⟩,
      ⟨"SELECT * FROM events_2", 0⟩]
    rotation := Resolver.hourly, options := { range := .fixed 1, shrink := true } }

/-- Late in an hour there is no shard left to read, and that is for the one reason that
    building does not rule out. -/
theorem configuration_faults_of_build_latestHour :
    ∃ q b, latestHour.build = .ok q ∧ (Binder.fresh 0 q).after [.execute .one] = b ∧
      b.plan .all (q.source.stateAt ⟨10000000000000, by decide, by decide⟩) =
        .error (.configuration .rangeNotPositive) ∧
      b.PlanningFault (q.source.stateAt ⟨10000000000000, by decide, by decide⟩)
        .rangeNotPositive :=
  ⟨_, (Binder.fresh 0 _).after [.execute .one], rfl, rfl, rfl,
    ((configuration_faults_of_build (d := latestHour) rfl (by rintro _ ⟨⟩)
      (b := (Binder.fresh 0 _).after [.execute .one]) rfl .all).1 _ _ rfl).2⟩

end Definition

end RotatedShards
