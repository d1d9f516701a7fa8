import Mathlib.Data.List.Perm.Subperm
import RotatedShards.Proofs.Rotation.Exactness
import RotatedShards.Proofs.Rotation.Resolution

/-!
# Orders of a family

Which lists of ids are recency orders. The ids are checked one after the other, for being
shards of the family and for not having been listed before; that every shard is listed then
follows by counting. So the orders that pass are the permutations of the family, and the
countdown from any of its shards is among them.

Results:
* `RotationState.permutes_iff`: what is checked of the ids is that they are a permutation.
* `RotationState.firstFault_eq_some`: the fault is that of the first id that has one.
* `RotationState.accepts_permutations`: which states both constructions give, and which
  fault is reported where there is none.
-/

namespace RotatedShards

namespace RotationState

/-! ## Permutations -/

/-- The ids are those of all shards of a family of `count`, each listed once: their numbers
    are a permutation of those from zero to `count - 1`. -/
def Permutes (count : Nat) (ids : List ShardId) : Prop :=
  (ids.map fun id => id.raw.toInt).Perm ((List.range count).map fun i : Nat => (i : Int))

theorem toInt_raw_injective : Function.Injective fun id : ShardId => id.raw.toInt := by
  intro s t h
  cases s with
  | mk raw => exact congrArg ShardId.mk (Int32.toInt_inj.mp h)

/-- As many ids as there are shards are a permutation if all are shards of the family and
    none is listed twice: no shard is left for which there would be no id. -/
theorem permutes_iff {count : Nat} {ids : List ShardId} :
    Permutes count ids ↔
      ids.length = count ∧ (∀ id ∈ ids, id.within count = true) ∧ ids.Nodup := by
  have hrange : ∀ n : Int, n ∈ (List.range count).map (fun i : Nat => (i : Int)) ↔
      0 ≤ n ∧ n < count := by
    intro n
    simp only [List.mem_map, List.mem_range]
    constructor
    · rintro ⟨i, hi, rfl⟩
      omega
    · rintro ⟨hpos, hlt⟩
      exact ⟨n.toNat, by omega, by omega⟩
  have hnodup : ((List.range count).map fun i : Nat => (i : Int)).Nodup :=
    List.nodup_range.map fun i j h => Int.ofNat_inj.mp h
  constructor
  · intro h
    refine ⟨by simpa using h.length_eq, ?_, ?_⟩
    · intro id hid
      rw [ShardId.within_iff_toInt, ← hrange, ← h.mem_iff]
      exact List.mem_map_of_mem hid
    · exact List.Nodup.of_map _ (h.nodup_iff.mpr hnodup)
  · rintro ⟨hlen, hwithin, hids⟩
    have hsubset : (ids.map fun id => id.raw.toInt) ⊆
        (List.range count).map fun i : Nat => (i : Int) := by
      intro n hn
      obtain ⟨id, hid, rfl⟩ := List.mem_map.mp hn
      exact (hrange _).mpr (ShardId.within_iff_toInt.mp (hwithin id hid))
    -- the ids take up as many shards as there are, so none is left over
    have hsubperm := List.subperm_of_subset (hids.map toInt_raw_injective) hsubset
    exact hsubperm.perm_of_length_le (by simp [hlen])

/-! ## Faults -/

/-- The fault of an order is that of its first id that is no shard of the family or that
    has been listed before. -/
theorem firstFault_eq_some {count : Nat} {seen ids : List ShardId} {fault : StateFault}
    (h : firstFault count seen ids = some fault) :
    ∃ before id after, ids = before ++ id :: after ∧
      (∀ t ∈ before, t.within count = true ∧ t ∉ seen) ∧ before.Nodup ∧
      (id.within count = false ∧ fault = .outOfRange id count ∨
        id.within count = true ∧ (id ∈ seen ∨ id ∈ before) ∧ fault = .repeated id) := by
  induction ids generalizing seen with
  | nil => cases h
  | cons s rest ih =>
    rw [firstFault] at h
    by_cases hwithin : s.within count = false
    · rw [if_pos hwithin] at h
      cases h
      exact ⟨[], s, rest, rfl, by simp, List.nodup_nil, Or.inl ⟨hwithin, rfl⟩⟩
    rw [if_neg hwithin] at h
    rw [Bool.not_eq_false] at hwithin
    by_cases hseen : s ∈ seen
    · rw [if_pos hseen] at h
      cases h
      exact ⟨[], s, rest, rfl, by simp, List.nodup_nil, Or.inr ⟨hwithin, Or.inl hseen, rfl⟩⟩
    · rw [if_neg hseen] at h
      obtain ⟨before, id, after, rfl, hbefore, hnodup, hfault⟩ := ih h
      refine ⟨s :: before, id, after, rfl, ?_, ?_, ?_⟩
      · intro t ht
        rcases List.mem_cons.mp ht with rfl | ht
        · exact ⟨hwithin, hseen⟩
        · obtain ⟨htw, htseen⟩ := hbefore t ht
          exact ⟨htw, fun hm => htseen (List.mem_cons_of_mem _ hm)⟩
      · exact List.nodup_cons.mpr ⟨fun hm => (hbefore s hm).2 List.mem_cons_self, hnodup⟩
      · rcases hfault with hout | ⟨hin, hlisted, hrepeated⟩
        · exact Or.inl hout
        · refine Or.inr ⟨hin, ?_, hrepeated⟩
          rcases hlisted with hlisted | hlisted
          · rcases List.mem_cons.mp hlisted with rfl | hlisted
            · exact Or.inr List.mem_cons_self
            · exact Or.inl hlisted
          · exact Or.inr (List.mem_cons_of_mem _ hlisted)

/-- The first id of an order that is at fault, and its fault: its number is none of a shard
    of the family, or the id has been listed before. Those before it are shards of the family,
    each listed once. -/
def FaultyFirst (count : Nat) (ids : List ShardId) (id : ShardId) (fault : StateFault) : Prop :=
  ∃ before after, ids = before ++ id :: after ∧
    (∀ t ∈ before, 0 ≤ t.raw.toInt ∧ t.raw.toInt < count) ∧ before.Nodup ∧
    (¬ (0 ≤ id.raw.toInt ∧ id.raw.toInt < count) ∧ fault = .outOfRange id count ∨
      id ∈ before ∧ fault = .repeated id)

/-- The text of a fault is about an id, whose number stands between blanks. -/
def Names (fault : StateFault) (id : ShardId) : Prop :=
  ∃ rest, fault.message = "shard id " ++ id.text ++ " " ++ rest

theorem FaultyFirst.names {count : Nat} {ids : List ShardId} {id : ShardId} {fault : StateFault}
    (h : FaultyFirst count ids id fault) : Names fault id := by
  obtain ⟨-, -, -, -, -, ⟨-, rfl⟩ | ⟨-, rfl⟩⟩ := h
  · have hmessage : (StateFault.outOfRange id count).message =
        "shard id " ++ id.text ++ (" " ++ "out of range 0..") ++ toString count := rfl
    refine ⟨"out of range 0.." ++ toString count, ?_⟩
    rw [hmessage, ← @String.append_assoc _ " ", String.append_assoc]
  · have hmessage : (StateFault.repeated id).message =
        "shard id " ++ id.text ++ (" " ++ "listed twice") := rfl
    exact ⟨"listed twice", by rw [hmessage, ← String.append_assoc]⟩

/-! ## Construction -/

section

variable {count : Nat} {ordered : List ShardId} {current : ShardId}

theorem permutes_ordered (s : RotationState) : Permutes s.numShards s.ordered :=
  permutes_iff.mpr ⟨rfl, s.ordered_within, s.ordered_nodup⟩

theorem exists_ofOrder_iff (elapsed period : Duration) :
    (∃ s, ofOrder count ordered elapsed period = .ok s) ↔ 1 ≤ count ∧ Permutes count ordered := by
  constructor
  · rintro ⟨s, hs⟩
    obtain ⟨hordered, hlen, -, -⟩ := ofOrder_eq_ok hs
    have hshards : s.numShards = count := by rw [numShards, hordered, hlen]
    have hpos := s.numShards_pos
    have hpermutes := s.permutes_ordered
    rw [hshards] at hpos hpermutes
    exact ⟨hpos, hordered ▸ hpermutes⟩
  · rintro ⟨hpos, hpermutes⟩
    obtain ⟨hlen, hwithin, hnodup⟩ := permutes_iff.mp hpermutes
    obtain ⟨s, hs, -⟩ := exists_ofOrder hpos hlen hwithin hnodup elapsed period
    exact ⟨s, hs⟩

/-- An order of the right length that is no permutation is refused for its first id that is
    at fault. -/
theorem exists_ofOrder_eq_error (hlen : ordered.length = count)
    (hnot : ¬ Permutes count ordered) (elapsed period : Duration) :
    ∃ id fault, FaultyFirst count ordered id fault ∧
      ofOrder count ordered elapsed period = .error fault := by
  have hpos : count ≠ 0 := by
    rintro rfl
    rw [List.length_eq_zero_iff.mp hlen] at hnot
    exact hnot (List.Perm.refl _)
  cases hfirst : firstFault count [] ordered with
  | none =>
    obtain ⟨hwithin, hnodup⟩ := firstFault_eq_none_iff.mp hfirst
    exact absurd (permutes_iff.mpr ⟨hlen, hwithin, hnodup⟩) hnot
  | some fault =>
    obtain ⟨before, id, after, hsplit, hbefore, hnodup, hfault⟩ := firstFault_eq_some hfirst
    refine ⟨id, fault, ⟨before, after, hsplit, ?_, hnodup, ?_⟩, ?_⟩
    · intro t ht
      exact ShardId.within_iff_toInt.mp (hbefore t ht).1
    · rcases hfault with ⟨hwithin, rfl⟩ | ⟨-, hmem, rfl⟩
      · refine Or.inl ⟨fun hrange => ?_, rfl⟩
        rw [ShardId.within_iff_toInt.mpr hrange] at hwithin
        cases hwithin
      · exact Or.inr ⟨hmem.resolve_left List.not_mem_nil, rfl⟩
    · unfold ofOrder
      rw [dif_neg (by omega), dif_neg (by simp [hlen])]
      split
      · rename_i fault' hfault'
        rw [hfirst] at hfault'
        cases hfault'
        rfl
      · rename_i hnone
        rw [hfirst] at hnone
        cases hnone

theorem exists_ofCurrent_iff (hmax : count ≤ 2147483647) (elapsed period : Duration) :
    (∃ s, ofCurrent count current elapsed period = .ok s) ↔
      0 ≤ current.raw.toInt ∧ current.raw.toInt < count := by
  constructor
  · rintro ⟨s, hs⟩
    obtain ⟨index, hlt, rfl, -⟩ := ofCurrent_eq_ok hs
    rw [ShardId.toInt_ofIndex (by omega)]
    omega
  · intro hrange
    obtain ⟨index, hposition, hlt⟩ :=
      ShardId.within_iff.mp (ShardId.within_iff_toInt.mpr hrange)
    have hindex := ShardId.ofIndex_of_position? hposition
    obtain ⟨s, hs, -⟩ := exists_ofCurrent_ofIndex hmax hlt elapsed period
    exact ⟨s, hindex ▸ hs⟩

theorem toInt_ordered_ofCurrent (hmax : count ≤ 2147483647) {elapsed period : Duration}
    {s : RotationState} (hs : ofCurrent count current elapsed period = .ok s) :
    s.ordered.map (fun id => id.raw.toInt) =
      (List.range count).map fun i : Nat => (current.raw.toInt - i) % count := by
  obtain ⟨index, hlt, rfl, hbuilt⟩ := ofCurrent_eq_ok hs
  obtain ⟨hordered, -⟩ := ofOrder_eq_ok hbuilt
  rw [hordered, toInt_countdown hmax, ShardId.toInt_ofIndex (by omega)]

end

/-- Both constructions accept exactly what there is a rotation of. A recency order is
    accepted if it is a permutation of all shards of a family that has any; it becomes the
    order of the state, and its head the current shard. One of the right length that is no
    permutation is refused for the first id that is no shard of the family, the absence of
    rotation being none, or that repeats an earlier one, and the text of the fault names it.
    A current shard is accepted if it is a shard of the family; the order of the state is then
    the permutation that counts down from it, modulo the number of shards. -/
theorem accepts_permutations (count : Nat) (ordered : List ShardId) (elapsed period : Duration) :
    ((∃ s, ofOrder count ordered elapsed period = .ok s) ↔ 1 ≤ count ∧ Permutes count ordered) ∧
    (∀ s, ofOrder count ordered elapsed period = .ok s →
      s.ordered = ordered ∧ ordered.head? = some s.current) ∧
    (ordered.length = count → ¬ Permutes count ordered →
      ∃ id fault, FaultyFirst count ordered id fault ∧ Names fault id ∧
        ofOrder count ordered elapsed period = .error fault) ∧
    (1 ≤ count → count ≤ 2147483647 → ∀ current : ShardId,
      ((∃ s, ofCurrent count current elapsed period = .ok s) ↔
        0 ≤ current.raw.toInt ∧ current.raw.toInt < count) ∧
      ∀ s, ofCurrent count current elapsed period = .ok s → Permutes count s.ordered ∧
        s.ordered.map (fun id => id.raw.toInt) =
          (List.range count).map fun i : Nat => (current.raw.toInt - i) % count) := by
  refine ⟨exists_ofOrder_iff elapsed period, fun s hs => ?_, fun hlen hnot => ?_,
    fun hpos hmax current => ⟨exists_ofCurrent_iff hmax elapsed period, fun s hs => ?_⟩⟩
  · obtain ⟨rfl, -⟩ := ofOrder_eq_ok hs
    rw [List.head?_eq_getElem?]
    exact ⟨rfl, s.getElem?_zero_ordered⟩
  · obtain ⟨id, fault, hfirst, herror⟩ := exists_ofOrder_eq_error hlen hnot elapsed period
    exact ⟨id, fault, hfirst, hfirst.names, herror⟩
  · obtain ⟨hlen, -⟩ := (Given.ofCurrent hs).views
    have hshards : s.numShards = count := hlen
    exact ⟨hshards ▸ s.permutes_ordered, toInt_ordered_ofCurrent hmax hs⟩

/-- In a family of three shards the order may jump. An order that lists the absence of
    rotation and repeats its head is refused for the former, and from the first shard the
    order goes around to the last. -/
theorem accepts_permutations_three (elapsed period : Duration) :
    (∃ s, ofOrder 3 [⟨1⟩, ⟨0⟩, ⟨2⟩] elapsed period = .ok s ∧ s.current = ⟨1⟩) ∧
    ofOrder 3 [⟨2⟩, .noRotation, ⟨2⟩] elapsed period =
      .error (.outOfRange .noRotation 3) ∧
    ∃ s, ofCurrent 3 .first elapsed period = .ok s ∧ s.ordered = [⟨0⟩, ⟨2⟩, ⟨1⟩] := by
  obtain ⟨haccepted, hstate, -, -⟩ := accepts_permutations 3 [⟨1⟩, ⟨0⟩, ⟨2⟩] elapsed period
  obtain ⟨-, -, hrefused, hcountdown⟩ :=
    accepts_permutations 3 [⟨2⟩, .noRotation, ⟨2⟩] elapsed period
  obtain ⟨hcurrent, hordered⟩ := hcountdown (by decide) (by decide) .first
  refine ⟨?_, ?_, ?_⟩
  · obtain ⟨s, hs⟩ := haccepted.mpr ⟨by decide, by unfold Permutes; decide⟩
    exact ⟨s, hs, (Option.some.inj (hstate s hs).2).symm⟩
  · obtain ⟨id, fault, ⟨before, after, hsplit, hbefore, -, hfault⟩, -, herror⟩ :=
      hrefused rfl (by unfold Permutes; decide)
    have hsecond : id = .noRotation ∧ before = [⟨2⟩] := by
      match before, hsplit with
      | [], hsplit =>
        cases hsplit
        obtain ⟨hout, -⟩ | ⟨hmem, -⟩ := hfault
        · exact absurd (by decide) hout
        · cases hmem
      | [_], hsplit =>
        cases hsplit
        exact ⟨rfl, rfl⟩
      | _ :: t :: _, hsplit =>
        have ht : .noRotation = t := by
          simp only [List.cons_append, List.cons.injEq] at hsplit
          exact hsplit.2.1
        exact absurd (hbefore t (by simp)) (ht ▸ by decide)
    obtain ⟨rfl, rfl⟩ := hsecond
    obtain ⟨-, rfl⟩ | ⟨hmem, -⟩ := hfault
    · exact herror
    · exact absurd hmem (by decide)
  · obtain ⟨s, hs⟩ := hcurrent.mpr (by decide)
    refine ⟨s, hs, List.map_injective_iff.mpr toInt_raw_injective ?_⟩
    exact (hordered s hs).2

end RotationState

end RotatedShards
