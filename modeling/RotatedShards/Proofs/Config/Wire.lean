import Mathlib.Tactic.SplitIfs
import RotatedShards.Config.Engine
import RotatedShards.Proofs.Except
import RotatedShards.Proofs.Time.DurationText

/-!
# The wire form of configurations

A configuration is read back from its wire form field by field. An object that lacks some of
the fields, or that has members under other names, in whatever order, yields the fields that
are there and the defaults of the others.

Results:
* `Json.foldlM_members`: reading an object one member at a time.
* `RotationConfig.ofJson_obj`, `WorkerConfig.ofJson_obj`: reading what is left of a section.
* `EngineConfig.ofJson_trimmed`: reading what is left of a configuration.
-/

namespace RotatedShards

/-! ## Objects -/

namespace Json

/-- The members of an object. -/
def members : Json → List (String × Json)
  | .obj ms => ms
  | _ => []

/-- The names of members. -/
def names (ms : List (String × Json)) : List String := ms.map Prod.fst

/-- The members are some of those of an object, in whatever order, and others under names
    that are none of its fields. -/
def Trimmed (fields : List String) (whole : Json) (ms : List (String × Json)) : Prop :=
  ∀ m ∈ ms, m ∈ whole.members ∨ m.1 ∉ fields

theorem trimmed_self (fields : List String) (whole : Json) : Trimmed fields whole whole.members :=
  fun _ hm => Or.inl hm

/-- If each member adds its name to those that a record is the result of, then reading all of
    them adds all their names. -/
theorem foldlM_members {α : Type} {set : α → String → Json → Except DecodeError α}
    {ms : List (String × Json)} {result : List String → α}
    (hset : ∀ known, ∀ m ∈ ms, set (result known) m.1 m.2 = .ok (result (known ++ [m.1])))
    (known : List String) :
    ms.foldlM (fun a (field, j) => set a field j) (result known) =
      .ok (result (known ++ names ms)) := by
  induction ms generalizing known with
  | nil => rw [names, List.map_nil, List.append_nil]; rfl
  | cons m rest ih =>
    obtain ⟨field, j⟩ := m
    have hrest := ih (fun known x hx => hset known x (List.mem_cons_of_mem _ hx)) (known ++ [field])
    rw [List.append_assoc] at hrest
    have hfirst : set (result known) field j = .ok (result (known ++ [field])) :=
      hset known (field, j) List.mem_cons_self
    simp only [List.foldlM_cons, hfirst]
    exact hrest

end Json

/-! ## Sections -/

namespace RotationConfig

/-- The fields of the given names, and the defaults of the others. -/
def keeping (c : RotationConfig) (kept : List String) : RotationConfig :=
  let source (name : String) : RotationConfig := if name ∈ kept then c else default
  { numShards := (source "num_shards").numShards
    rotationPeriod := (source "rotation_period").rotationPeriod
    expirationPeriod := (source "expiration_period").expirationPeriod
    queryRange := (source "query_range").queryRange
    clockSkewMargin := (source "clock_skew_margin").clockSkewMargin
    epochMillis := (source "epoch_millis").epochMillis }

/-! ### Fields -/

theorem size_countJson (n : UInt64) : (countJson n).size = .ok n := by
  have hlt := n.toNat_lt
  have hrange : (0 : Int) ≤ n.toNat ∧ (n.toNat : Int) ≤ 18446744073709551615 := by omega
  simp only [countJson, Json.size, Json.integer, if_pos hrange, Except.map, Int.toNat_natCast,
    UInt64.ofNat_toNat]

theorem word_countJson (n : UInt64) : (countJson n).word = .ok n := by
  have hlt := n.toNat_lt
  have hrange : (0 : Int) ≤ n.toNat ∧ (n.toNat : Int) ≤ 18446744073709551615 := by omega
  simp only [countJson, Json.word, Json.integer, if_pos hrange, Except.map, Int.toNat_natCast,
    UInt64.ofNat_toNat]

theorem duration_durationJson (d : Duration) : (durationJson d).duration = .ok d := by
  rw [durationJson, Json.duration, Json.text, bind_eq_ok_iff]
  exact ⟨d.text, rfl, by rw [Duration.ofText_text]⟩

theorem nullable_durationJson (d : Option Duration) :
    (nullOr durationJson d).nullable Json.duration = .ok d := by
  cases d with
  | none => rfl
  | some d => exact congrArg (Except.map some) (duration_durationJson d)

theorem nullable_countJson (n : Option UInt64) :
    (nullOr countJson n).nullable Json.size = .ok n := by
  cases n with
  | none => rfl
  | some n => exact congrArg (Except.map some) (size_countJson n)

/-! ### Members -/

theorem keeping_fieldNames (c : RotationConfig) {kept : List String}
    (h : ∀ name ∈ fieldNames, name ∈ kept) : c.keeping kept = c := by
  simp only [fieldNames, List.forall_mem_cons] at h
  simp [keeping, h]

/-- Each member of the wire form sets its field, and other members set nothing. -/
theorem setField_keeping (c : RotationConfig) {m : String × Json}
    (hm : m ∈ c.toJson.members ∨ m.1 ∉ fieldNames) (kept : List String) :
    (c.keeping kept).setField m.1 m.2 = .ok (c.keeping (kept ++ [m.1])) := by
  rcases hm with hm | hm
  · simp only [toJson, Json.members, List.mem_cons, List.not_mem_nil, or_false] at hm
    rcases hm with rfl | rfl | rfl | rfl | rfl | rfl <;>
      simp [setField, keeping, size_countJson, word_countJson, duration_durationJson,
        nullable_durationJson, nullable_countJson, Except.map]
  · have hset : (c.keeping kept).setField m.1 m.2 = .ok (c.keeping kept) := by
      unfold setField
      split <;> simp_all [fieldNames]
    have hkeep : c.keeping (kept ++ [m.1]) = c.keeping kept := by
      simp only [fieldNames, List.mem_cons, List.not_mem_nil, or_false, not_or] at hm
      simp [keeping, Ne.symm, hm]
    rw [hset, hkeep]

/-- What is left of the wire form is read as the fields that are there. -/
theorem ofJson_obj (c : RotationConfig) {ms : List (String × Json)}
    (h : Json.Trimmed fieldNames c.toJson ms) :
    ofJson (.obj ms) = .ok (c.keeping (Json.names ms)) :=
  Json.foldlM_members (fun kept _ hm => c.setField_keeping (h _ hm) kept) []

end RotationConfig

namespace WorkerConfig

/-- The fields of the given names, and the defaults of the others. -/
def keeping (c : WorkerConfig) (kept : List String) : WorkerConfig :=
  let source (name : String) : WorkerConfig := if name ∈ kept then c else default
  { threads := (source "worker_threads").threads, threadName := (source "thread_name").threadName }

theorem keeping_fieldNames (c : WorkerConfig) {kept : List String}
    (h : ∀ name ∈ fieldNames, name ∈ kept) : c.keeping kept = c := by
  simp only [fieldNames, List.forall_mem_cons] at h
  simp [keeping, h]

theorem setField_keeping (c : WorkerConfig) {m : String × Json}
    (hm : m ∈ c.toJson.members ∨ m.1 ∉ fieldNames) (kept : List String) :
    (c.keeping kept).setField m.1 m.2 = .ok (c.keeping (kept ++ [m.1])) := by
  rcases hm with hm | hm
  · have hthreads : (Json.int c.threads.toNat).size = .ok c.threads :=
      RotationConfig.size_countJson c.threads
    simp only [toJson, Json.members, List.mem_cons, List.not_mem_nil, or_false] at hm
    rcases hm with rfl | rfl
    · simp [setField, keeping, Json.text, Except.map]
    · simp [setField, keeping, hthreads, Except.map]
  · have hset : (c.keeping kept).setField m.1 m.2 = .ok (c.keeping kept) := by
      unfold setField
      split <;> simp_all [fieldNames]
    have hkeep : c.keeping (kept ++ [m.1]) = c.keeping kept := by
      simp only [fieldNames, List.mem_cons, List.not_mem_nil, or_false, not_or] at hm
      simp [keeping, Ne.symm, hm]
    rw [hset, hkeep]

/-- What is left of the wire form is read as the fields that are there. -/
theorem ofJson_obj (c : WorkerConfig) {ms : List (String × Json)}
    (h : Json.Trimmed fieldNames c.toJson ms) :
    ofJson (.obj ms) = .ok (c.keeping (Json.names ms)) :=
  Json.foldlM_members (fun kept _ hm => c.setField_keeping (h _ hm) kept) []

end WorkerConfig

/-! ## Configurations -/

namespace EngineConfig

/-- The sections of the given names, and the defaults of the others. -/
def keeping (c : EngineConfig) (kept : List String) : EngineConfig :=
  { rotation := if "rotation" ∈ kept then c.rotation else .default
    workers := if "executor" ∈ kept then c.workers else .default }

theorem keeping_fieldNames (c : EngineConfig) {kept : List String}
    (h : ∀ name ∈ fieldNames, name ∈ kept) : c.keeping kept = c := by
  simp only [fieldNames, List.forall_mem_cons] at h
  simp [keeping, h]

/-- The sections as they are read are kept where they are there, and other members set
    nothing. -/
theorem setField_keeping (c : EngineConfig) {rotation workers : Json}
    (hrotation : RotationConfig.ofJson rotation = .ok c.rotation)
    (hworkers : WorkerConfig.ofJson workers = .ok c.workers) {m : String × Json}
    (hm : m ∈ [("rotation", rotation), ("executor", workers)] ∨ m.1 ∉ fieldNames)
    (kept : List String) :
    (c.keeping kept).setField m.1 m.2 = .ok (c.keeping (kept ++ [m.1])) := by
  rcases hm with hm | hm
  · simp only [List.mem_cons, List.not_mem_nil, or_false] at hm
    rcases hm with rfl | rfl
    · simp [setField, keeping, hrotation, Except.map]
    · simp [setField, keeping, hworkers, Except.map]
  · have hset : (c.keeping kept).setField m.1 m.2 = .ok (c.keeping kept) := by
      unfold setField
      split <;> simp_all [fieldNames]
    have hkeep : c.keeping (kept ++ [m.1]) = c.keeping kept := by
      simp only [fieldNames, List.mem_cons, List.not_mem_nil, or_false, not_or] at hm
      simp [keeping, Ne.symm, hm]
    rw [hset, hkeep]

/-- What is left of a configuration is read as the sections that are there, as they are read. -/
theorem ofJson_obj (c : EngineConfig) {rotation workers : Json}
    (hrotation : RotationConfig.ofJson rotation = .ok c.rotation)
    (hworkers : WorkerConfig.ofJson workers = .ok c.workers) {ms : List (String × Json)}
    (h : Json.Trimmed fieldNames (.obj [("rotation", rotation), ("executor", workers)]) ms) :
    ofJson (.obj ms) = .ok (c.keeping (Json.names ms)) :=
  Json.foldlM_members (fun kept _ hm => c.setField_keeping hrotation hworkers (h _ hm) kept) []

/-- A configuration is read back from its wire form. Whatever fields of its sections, or whole
    sections, are taken out, and whatever other members are put in: what is read has the
    fields that are there, and the defaults of the others. -/
theorem ofJson_trimmed (c : EngineConfig) :
    ofJson c.toJson = .ok c ∧
      ∀ rotation workers members : List (String × Json),
        Json.Trimmed RotationConfig.fieldNames c.rotation.toJson rotation →
        Json.Trimmed WorkerConfig.fieldNames c.workers.toJson workers →
        Json.Trimmed fieldNames (.obj [("rotation", .obj rotation), ("executor", .obj workers)])
          members →
        ofJson (.obj members) =
          .ok (keeping
            { rotation := c.rotation.keeping (Json.names rotation)
              workers := c.workers.keeping (Json.names workers) } (Json.names members)) := by
  have htrimmed : ∀ rotation workers members : List (String × Json),
      Json.Trimmed RotationConfig.fieldNames c.rotation.toJson rotation →
      Json.Trimmed WorkerConfig.fieldNames c.workers.toJson workers →
      Json.Trimmed fieldNames (.obj [("rotation", .obj rotation), ("executor", .obj workers)])
        members →
      ofJson (.obj members) =
        .ok (keeping
          { rotation := c.rotation.keeping (Json.names rotation)
            workers := c.workers.keeping (Json.names workers) } (Json.names members)) := by
    intro rotation workers members hrotation hworkers hmembers
    exact ofJson_obj _ (c.rotation.ofJson_obj hrotation) (c.workers.ofJson_obj hworkers) hmembers
  refine ⟨?_, htrimmed⟩
  have hwhole := htrimmed c.rotation.toJson.members c.workers.toJson.members
    c.toJson.members (Json.trimmed_self _ _) (Json.trimmed_self _ _) ?_
  · rw [RotationConfig.keeping_fieldNames, WorkerConfig.keeping_fieldNames,
      keeping_fieldNames] at hwhole
    · exact hwhole
    all_goals
      simp [fieldNames, RotationConfig.fieldNames, WorkerConfig.fieldNames, Json.names,
        Json.members, toJson, RotationConfig.toJson, WorkerConfig.toJson]
  · intro m hm
    refine Or.inl ?_
    simp only [toJson, Json.members, List.mem_cons, List.not_mem_nil, or_false] at hm ⊢
    exact hm.symm

/-- The longest rotation period, the largest number of tables and a lone nanosecond, with the
    rest of the rotation and all of the workers taken out. -/
theorem ofJson_trimmed_longest :
    let longest : Duration := ⟨18446744073709551615999999999, by decide⟩
    ofJson (.obj [("comment", .null), ("rotation", .obj [
        ("rotation_period",
          .str "584542046090years 7months 15days 17h 5m 3s 999ms 999us 999ns"),
        ("num_shards", .int 18446744073709551615), ("shards", .int (-1)),
        ("expiration_period", .str "1ns")])]) =
      .ok { rotation := { numShards := 18446744073709551615, rotationPeriod := longest,
                          expirationPeriod := some ⟨1, by decide⟩ } } := by
  intro longest
  let c : EngineConfig :=
    { rotation :=
        { numShards := 18446744073709551615, rotationPeriod := longest,
          expirationPeriod := some ⟨1, by decide⟩, epochMillis := 7 }
      workers := { threads := 0 } }
  have hlongest : longest.text =
      "584542046090years 7months 15days 17h 5m 3s 999ms 999us 999ns" := by decide +kernel
  have hnano : (⟨1, by decide⟩ : Duration).text = "1ns" := by decide +kernel
  have hread := (ofJson_trimmed c).2
    [("rotation_period", .str longest.text), ("num_shards", .int 18446744073709551615),
      ("shards", .int (-1)), ("expiration_period", .str (⟨1, by decide⟩ : Duration).text)]
    [] [("comment", .null), ("rotation", .obj [("rotation_period", .str longest.text),
      ("num_shards", .int 18446744073709551615), ("shards", .int (-1)),
      ("expiration_period", .str (⟨1, by decide⟩ : Duration).text)])]
    (by
      simp only [Json.Trimmed, List.forall_mem_cons]
      exact ⟨.inl (by simp [c, RotationConfig.toJson, Json.members, RotationConfig.durationJson]),
        .inl (by simp [c, RotationConfig.toJson, Json.members, RotationConfig.countJson]),
        .inr (by decide),
        .inl (by simp [c, RotationConfig.toJson, Json.members, RotationConfig.nullOr,
          RotationConfig.durationJson]), by simp⟩)
    (by simp [Json.Trimmed])
    (by
      simp only [Json.Trimmed, List.forall_mem_cons]
      exact ⟨.inr (by decide), .inl (by simp [Json.members]), by simp⟩)
  rw [hlongest, hnano] at hread
  exact hread

end EngineConfig

end RotatedShards
