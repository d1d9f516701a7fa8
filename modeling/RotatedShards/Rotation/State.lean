import RotatedShards.ShardId

/-!
# Rotation states

A rotation state says which shard of a family receives writes, for how long it
has done so, and in which order the shards received writes before.

Main definitions:

* `RotationState`: a recency order without gaps and repetitions.
* `RotationState.ofOrder`: a state with a given order.
* `RotationState.ofCurrent`: a state whose order counts down from the current
  shard.

Main statements:

* `firstFault_eq_none`: an order without a fault lists shards of the family, each
  at most once.
-/

namespace RotatedShards

/-- Why an order of shards is not a recency order. -/
inductive StateFault
  | noShards
  | currentOutOfRange (current : ShardId) (count : Nat)
  | wrongLength (count got : Nat)
  | outOfRange (shard : ShardId) (count : Nat)
  | repeated (shard : ShardId)
deriving DecidableEq

/-- The text of a fault. -/
def StateFault.message : StateFault → String
  | .noShards => "num_shards must be at least 1"
  | .currentOutOfRange current count =>
    s!"current shard {current.text} out of range 0..{count}"
  | .wrongLength count got => s!"expected {count} ordered shard ids, got {got}"
  | .outOfRange shard count => s!"shard id {shard.text} out of range 0..{count}"
  | .repeated shard => s!"shard id {shard.text} listed twice"

/-- The state of a rotation at some time: the shards, most recent first, and how
    much of the current shard's period has passed. -/
structure RotationState where
  ordered : List ShardId
  elapsed : Duration
  period : Duration
  ordered_ne_nil : ordered ≠ []
  ordered_nodup : ordered.Nodup
  ordered_within : ∀ s ∈ ordered, s.within ordered.length = true

namespace RotationState

/-! ## Orders -/

/-- The first id that is not a shard of the family or is listed again, given the
    ids before it. -/
def firstFault (count : Nat) : List ShardId → List ShardId → Option StateFault
  | _, [] => none
  | seen, s :: rest =>
    if s.within count = false then some (.outOfRange s count)
    else if s ∈ seen then some (.repeated s)
    else firstFault count (s :: seen) rest

theorem firstFault_eq_none {count : Nat} {seen ids : List ShardId}
    (h : firstFault count seen ids = none) :
    (∀ s ∈ ids, s.within count = true ∧ s ∉ seen) ∧ ids.Nodup := by
  induction ids generalizing seen with
  | nil => simp
  | cons s rest ih =>
    simp only [firstFault] at h
    split at h
    · cases h
    · split at h
      · cases h
      · rename_i hw hs
        obtain ⟨hall, hnodup⟩ := ih h
        refine ⟨?_, ?_⟩
        · intro t ht
          rcases List.mem_cons.1 ht with rfl | ht
          · exact ⟨by simpa using hw, hs⟩
          · exact ⟨(hall t ht).1, fun hm => (hall t ht).2 (List.mem_cons_of_mem _ hm)⟩
        · exact List.nodup_cons.2 ⟨fun hm => (hall s hm).2 List.mem_cons_self, hnodup⟩

/-- The ids from `current` downwards, going around after the first shard. -/
def countdown (count current : Nat) : List ShardId :=
  (List.range count).map fun step => ShardId.ofIndex ((current + count - step) % count)

/-! ## Construction -/

/-- `with_ordered_ids`: the state of a family of `count` shards with an explicit recency
    order. -/
def ofOrder (count : Nat) (ordered : List ShardId) (elapsed period : Duration) :
    Except StateFault RotationState :=
  if hc : count = 0 then .error .noShards
  else if hl : ordered.length ≠ count then .error (.wrongLength count ordered.length)
  else match hf : firstFault count [] ordered with
    | some fault => .error fault
    | none =>
      have hlen : ordered.length = count := Decidable.not_not.1 hl
      .ok
        { ordered, elapsed, period
          ordered_ne_nil := fun h => hc (by rw [← hlen, h]; rfl)
          ordered_nodup := (firstFault_eq_none hf).2
          ordered_within := fun s hs => hlen ▸ ((firstFault_eq_none hf).1 s hs).1 }

/-- `new`: the state of a family of `count` shards whose shards took turns in ascending
    order up to the current one. -/
def ofCurrent (count : Nat) (current : ShardId) (elapsed period : Duration) :
    Except StateFault RotationState :=
  if count = 0 then .error .noShards
  else match current.position? with
    | some index =>
      if index < count then ofOrder count (countdown count index) elapsed period
      else .error (.currentOutOfRange current count)
    | none => .error (.currentOutOfRange current count)

/-! ## Views -/

/-- The number of shards of the family. -/
def numShards (s : RotationState) : Nat := s.ordered.length

/-- The shard that receives writes. -/
def current (s : RotationState) : ShardId := s.ordered.head s.ordered_ne_nil

theorem numShards_pos (s : RotationState) : 0 < s.numShards :=
  List.length_pos_iff.2 s.ordered_ne_nil

end RotationState

end RotatedShards
