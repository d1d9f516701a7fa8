import Mathlib.Tactic.SplitIfs
import RotatedShards.ShardId

/-!
# Shards and tables

Ids and the tables that they address. The ids of a family's tables are told apart
by their positions as long as there are no more tables than ids.

Results:
* `tableIndex?_ofIndex`, `ofIndex_inj`: the id of a table addresses that table.
* `ofIndex_of_tableIndex?`: the table that an id addresses has that id, except
  that the table without rotation is the first one.
* `ofIndex_of_position?`: the position of an id in a rotating family has that id.
* `addresses_of_within`: a position in a rotating family is a table of it.
-/

namespace RotatedShards.ShardId

/-! ## The number of an id -/

theorem toInt_ofIndex {i : Nat} (h : i ≤ 2147483647) : (ofIndex i).raw.toInt = i := by
  unfold ofIndex
  rw [Int32.toInt_ofNat', Nat.min_eq_left h]
  exact Int.bmod_eq_of_le (by simp [Int32.size]) (by simp [Int32.size]; omega)

theorem isNoRotation_iff (s : ShardId) : s.isNoRotation = true ↔ s.raw.toInt = -1 := by
  unfold isNoRotation
  rw [beq_iff_eq, ← Int32.toInt_inj]
  rfl

theorem raw_neg_iff (s : ShardId) : s.raw < 0 ↔ s.raw.toInt < 0 := by
  rw [Int32.lt_iff_toInt_lt]
  rfl

theorem tableIndex?_eq (s : ShardId) :
    s.tableIndex? = if s.raw.toInt = -1 then some 0
      else if s.raw.toInt < 0 then none else some s.raw.toInt.toNat := by
  simp only [tableIndex?, isNoRotation_iff, raw_neg_iff]

/-- The ids that address a table are the numbers from zero up, each its own position, and the
    absence of rotation, which stands for the first table. -/
theorem tableIndex?_eq_some_iff {s : ShardId} {i : Nat} :
    s.tableIndex? = some i ↔ -1 ≤ s.raw.toInt ∧ (i : Int) = max s.raw.toInt 0 := by
  rw [tableIndex?_eq]
  split_ifs with h1 h2
  · simp only [Option.some.injEq]
    omega
  · simp only [false_iff]
    omega
  · simp only [Option.some.injEq]
    omega

/-! ## Ids of tables -/

theorem isNoRotation_ofIndex {i : Nat} (h : i ≤ 2147483647) : (ofIndex i).isNoRotation = false := by
  rw [Bool.eq_false_iff, ne_eq, isNoRotation_iff, toInt_ofIndex h]
  omega

theorem tableIndex?_ofIndex {i : Nat} (h : i ≤ 2147483647) : (ofIndex i).tableIndex? = some i := by
  rw [tableIndex?_eq, toInt_ofIndex h, if_neg (by omega), if_neg (by omega), Int.toNat_natCast]

theorem position?_ofIndex {i : Nat} (h : i ≤ 2147483647) : (ofIndex i).position? = some i := by
  rw [position?, isNoRotation_ofIndex h, tableIndex?_ofIndex h]
  rfl

/-- Different tables have different ids. -/
theorem ofIndex_inj {i j : Nat} (hi : i ≤ 2147483647) (hj : j ≤ 2147483647) :
    ofIndex i = ofIndex j ↔ i = j := by
  constructor
  · intro h
    have := congrArg (fun s : ShardId => s.raw.toInt) h
    simp only [toInt_ofIndex hi, toInt_ofIndex hj] at this
    omega
  · rintro rfl
    rfl

/-- The table that an id addresses has that id. An id that stands for the absence
    of rotation addresses the first table. -/
theorem ofIndex_of_tableIndex? {s : ShardId} {i : Nat} (h : s.tableIndex? = some i) :
    ofIndex i = if s = noRotation then first else s := by
  have hlt := s.raw.toInt_lt
  rw [tableIndex?_eq] at h
  split_ifs at h with h1 h2
  · cases h
    have hs : s = noRotation := by
      cases s with
      | mk raw => exact congrArg mk (Int32.toInt_inj.mp h1)
    rw [if_pos hs]
    rfl
  · have hi : s.raw.toInt = i := by
      have := Option.some.inj h
      omega
    have hs : s ≠ noRotation := by
      rintro rfl
      exact h1 rfl
    rw [if_neg hs]
    have : (ofIndex i).raw = s.raw := by
      rw [← Int32.toInt_inj, toInt_ofIndex (by omega), hi]
    cases s with
    | mk raw => exact congrArg mk this

/-- The position that an id has in a rotating family has that id. -/
theorem ofIndex_of_position? {s : ShardId} {i : Nat} (h : s.position? = some i) :
    ofIndex i = s := by
  unfold position? at h
  split_ifs at h with hn
  have hne : s ≠ noRotation := by
    rintro rfl
    exact hn rfl
  rw [ofIndex_of_tableIndex? h, if_neg hne]

/-! ## Families -/

theorem addresses_iff {s : ShardId} {count : Nat} :
    s.addresses count = true ↔ ∃ i, s.tableIndex? = some i ∧ i < count := by
  unfold addresses
  cases s.tableIndex? <;> simp

theorem addresses_iff_toInt {s : ShardId} {count : Nat} (h : 0 < count) :
    s.addresses count = true ↔ -1 ≤ s.raw.toInt ∧ s.raw.toInt < count := by
  rw [addresses_iff]
  constructor
  · rintro ⟨i, hi, hlt⟩
    obtain ⟨hlow, hmax⟩ := tableIndex?_eq_some_iff.mp hi
    omega
  · rintro ⟨hlow, hhigh⟩
    exact ⟨(max s.raw.toInt 0).toNat, tableIndex?_eq_some_iff.mpr ⟨hlow, by omega⟩, by omega⟩

theorem within_iff {s : ShardId} {count : Nat} :
    s.within count = true ↔ ∃ i, s.position? = some i ∧ i < count := by
  unfold within
  cases s.position? <;> simp

/-- The positions of a rotating family are the numbers from zero up to its last shard: the
    absence of rotation is none of them. -/
theorem within_iff_toInt {s : ShardId} {count : Nat} :
    s.within count = true ↔ 0 ≤ s.raw.toInt ∧ s.raw.toInt < count := by
  rw [within_iff, position?]
  by_cases hn : s.isNoRotation = true
  · have := s.isNoRotation_iff.mp hn
    rw [if_pos hn]
    simp only [reduceCtorEq, false_and, exists_false, false_iff, not_and]
    omega
  · have hne := mt s.isNoRotation_iff.mpr hn
    rw [if_neg hn, tableIndex?_eq, if_neg hne]
    by_cases hneg : s.raw.toInt < 0
    · rw [if_pos hneg]
      simp only [reduceCtorEq, false_and, exists_false, false_iff, not_and]
      omega
    · rw [if_neg hneg]
      simp only [Option.some.injEq, exists_eq_left']
      omega

theorem within_ofIndex {i count : Nat} (hi : i < count) (h : i ≤ 2147483647) :
    (ofIndex i).within count = true :=
  within_iff.mpr ⟨i, position?_ofIndex h, hi⟩

/-- A position in a rotating family is not the absence of rotation, and a table of
    the family. -/
theorem addresses_of_within {s : ShardId} {count : Nat} (h : s.within count = true) :
    s ≠ noRotation ∧ s.addresses count = true := by
  obtain ⟨i, hi, hlt⟩ := within_iff.mp h
  unfold position? at hi
  split_ifs at hi with hn
  refine ⟨?_, addresses_iff.mpr ⟨i, hi, hlt⟩⟩
  rintro rfl
  exact hn rfl

theorem exists_tableIndex?_of_ne {s t : ShardId} {count : Nat}
    (hs : s.addresses count = true) (hs' : s ≠ noRotation)
    (ht : t.addresses count = true) (ht' : t ≠ noRotation) (hne : s ≠ t) :
    ∃ i j, s.tableIndex? = some i ∧ t.tableIndex? = some j ∧ i ≠ j := by
  obtain ⟨i, hi, -⟩ := addresses_iff.mp hs
  obtain ⟨j, hj, -⟩ := addresses_iff.mp ht
  refine ⟨i, j, hi, hj, ?_⟩
  rintro rfl
  have hsi := ofIndex_of_tableIndex? hi
  rw [if_neg hs', ofIndex_of_tableIndex? hj, if_neg ht'] at hsi
  exact hne hsi.symm

end RotatedShards.ShardId
