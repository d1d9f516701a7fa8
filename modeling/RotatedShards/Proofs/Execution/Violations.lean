import RotatedShards.Proofs.Execution.Agreement
import RotatedShards.Proofs.Execution.Failures
import RotatedShards.Proofs.Execution.Turns
import RotatedShards.Proofs.Store.Decoding

/-!
# Violations

When an execution results in that there are too many objects. The engine finds it in reads
for at most one object, and counts each one that it finds. Mappers and sources of states are
not the engine's; as long as they do not report violations of their own, those that are
results are those that are counted.

Results:
* `Gathering.violates_settle`: a gathering reports the violation that it counts.
* `violates_walked`, `Binder.violates_plan`: walks and plans report none.
* `Query.reportsNoViolation_of_events`: reads of events report none of their own.
-/

namespace RotatedShards

variable {σ α : Type}

/-! ## Reports of violations -/

/-- The result is that there are too many objects. -/
def violates : Except QueryError (Answer α) → Bool
  | .error error => error.code == .cardinalityViolation
  | .ok _ => false

/-- The mapper reports no violation of its own. -/
def RowMapper.ReportsNoViolation (mapper : RowMapper α) : Prop :=
  ∀ e, mapper.FailsWith e → e.code ≠ .cardinalityViolation

/-- That there are too many objects is for the engine alone to report: neither the mapper of
    the query nor the source of its states does. -/
structure Query.ReportsNoViolation (q : Query α) : Prop where
  mapper : q.mapper.ReportsNoViolation
  source : ∀ now e, q.source.stateAt now = .error e → e.code ≠ .cardinalityViolation

/-! ## Settlements -/

/-- A merge reports exactly the surplus that is counted, unless the mapper fails. -/
theorem Merging.apply_cases (m : Merging) (mapper : RowMapper α) (query : String)
    (rows : List RawRows) :
    violates (m.apply mapper query rows) = (m.surplus? mapper rows).isSome ∨
      m.surplus? mapper rows = none ∧
        ∃ e, mapper.FailsWith e ∧ m.apply mapper query rows = .error e := by
  cases m with
  | rows => exact Or.inl rfl
  | first =>
    simp only [apply]
    cases rows.head? with
    | none => exact Or.inl rfl
    | some answer =>
      cases hd : mapper.decodeOptional answer with
      | ok found => exact Or.inl (by simp only [hd]; rfl)
      | error e => exact Or.inr ⟨rfl, e, ⟨answer, Or.inr hd⟩, by simp only [hd]; rfl⟩
  | all =>
    simp only [apply]
    cases hd : rows.mapM mapper.decodeMany with
    | ok parts => exact Or.inl rfl
    | error e => exact Or.inr ⟨rfl, e, RowMapper.failsWith_of_mapM hd, rfl⟩
  | firstPresent =>
    simp only [apply]
    cases hd : Merge.firstPresent (rows.map mapper.decodeMany) with
    | ok found => exact Or.inl rfl
    | error e =>
      obtain ⟨answer, -, hanswer⟩ := List.mem_map.mp (Merge.mem_of_firstPresent_eq_error hd)
      exact Or.inr ⟨rfl, e, ⟨answer, Or.inl hanswer⟩, rfl⟩
  | atMostOne =>
    cases hd : rows.mapM mapper.decodeMany with
    | error e =>
      refine Or.inr ⟨by simp only [surplus?, hd]; rfl, e, RowMapper.failsWith_of_mapM hd, ?_⟩
      simp only [apply, hd]
      rfl
    | ok parts =>
      rw [isSome_surplus?_atMostOne hd, apply_atMostOne hd]
      refine Or.inl ?_
      rcases parts.flatten with - | ⟨a, - | ⟨a', rest⟩⟩
      · rfl
      · rfl
      · exact (decide_eq_true (by simp)).symm

namespace Gathering

/-- A gathering reports exactly the violation that it counts, unless its mapper fails. -/
theorem violates_cases (g : Gathering α) :
    violates g.settle.result = g.settle.surplus.isSome ∨
      g.settle.surplus = none ∧ ∃ e, g.mapper.FailsWith e ∧ g.settle.result = .error e := by
  rcases g.settle_cases with ⟨-, hs⟩ | ⟨-, fault, -, hs⟩ | ⟨rows, -, hs⟩
  · rw [hs]
    exact Or.inl rfl
  · rw [hs]
    exact Or.inl rfl
  · rw [hs]
    exact g.merging.apply_cases g.mapper g.query rows

theorem violates_of_surplus {g : Gathering α} (h : g.settle.surplus.isSome = true) :
    violates g.settle.result = true := by
  rcases g.violates_cases with heq | ⟨hnone, -⟩
  · rw [heq, h]
  · rw [hnone] at h
    cases h

theorem violates_settle {g : Gathering α}
    (hmapper : g.mapper.ReportsNoViolation) :
    violates g.settle.result = g.settle.surplus.isSome := by
  rcases g.violates_cases with heq | ⟨hnone, e, hfails, hresult⟩
  · exact heq
  · rw [hnone, hresult]
    exact beq_eq_false_iff_ne.mpr (hmapper e hfails)

end Gathering

/-- A walk reports no violation, unless its mapper does. -/
theorem violates_walked [Backend σ] {mapper : RowMapper α}
    (hmapper : mapper.ReportsNoViolation) (store : σ)
    (statements : List BoundStatement) :
    violates (walked mapper store statements).result = false := by
  have hread (xs : List Exchange) :
      violates ((Exchange.firstRead mapper xs).map Answer.item) = false := by
    induction xs with
    | nil => rfl
    | cons x rest ih =>
      rw [Exchange.firstRead]
      obtain ⟨statement, delay, outcome⟩ := x
      cases outcome with
      | failed fault => rfl
      | crashed => rfl
      | rows rows =>
        simp only [Exchange.read]
        cases hd : mapper.decodeOptional rows with
        | error e => exact beq_eq_false_iff_ne.mpr (hmapper e ⟨rows, Or.inr hd⟩)
        | ok found =>
          cases found with
          | none => exact ih
          | some item => rfl
  exact hread _

/-! ## Plans -/

/-- No execution is refused for a violation, unless the source of states reports one. -/
theorem Binder.violates_plan {b : Binder α} {mode : Mode} {state : Except QueryError RotationState}
    (hstate : ∀ e, state = .error e → e.code ≠ .cardinalityViolation) {e : QueryError}
    (h : b.plan mode state = .error e) :
    violates (.error e : Except QueryError (Answer α)) = false := by
  rcases cause_of_plan h with hs | ⟨cause, rfl⟩ | ⟨cause, rfl⟩
  · exact beq_eq_false_iff_ne.mpr (hstate e hs)
  · rfl
  · rfl

/-! ## Reads of events -/

namespace Event

theorem fault_of_decodeMany {r : RawRows} {e : QueryError} (h : mapper.decodeMany r = .error e) :
    ∃ fault, e = .backend fault := by
  cases decodeMany_eq_iff.mp h with
  | noKey _ => exact ⟨_, rfl⟩
  | noPayload _ _ => exact ⟨_, rfl⟩
  | notText _ _ _ _ _ => exact ⟨_, rfl⟩

theorem reportsNoViolation_mapper : mapper.ReportsNoViolation := by
  rintro e ⟨rows, h | h⟩
  · obtain ⟨fault, rfl⟩ := fault_of_decodeMany h
    rintro ⟨⟩
  · obtain ⟨fault, rfl⟩ := fault_of_decodeMany (map_eq_error_iff.mp h)
    rintro ⟨⟩

end Event

/-- Queries of events that go by the clock report no violations of their own. -/
theorem Query.reportsNoViolation_of_events {q : Query Event} (hmapper : q.mapper = Event.mapper)
    (hsource : q.source.FixedOrClock) : q.ReportsNoViolation where
  mapper := hmapper ▸ Event.reportsNoViolation_mapper
  source now e h := by
    rcases hsource.stateAt_cases now with ⟨s, hs, -⟩ | he
    · rw [hs] at h
      cases h
    · rw [he] at h
      cases h
      decide

end RotatedShards
