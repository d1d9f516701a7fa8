import RotatedShards.Proofs.Query.Built

/-!
# Bindings

What a binder holds is told by the changes that it has admitted. Of those that set the same
thing the last one counts: a value to a slot, whether it was bound by position or by name, a
consistency, or the pinned shard. What none of them has set is as it was at first.

Results:
* `Binder.exists_adjust_iff`: which changes are admitted.
* `Binder.reflects_fresh`, `Binder.Reflects.admits`, `Binder.Reflects.freeze`: a fresh binder
  reflects no changes, and each call leaves it reflecting those admitted so far.
-/

namespace RotatedShards

variable {α : Type}

/-! ## Changes -/

namespace Adjustment

/-- The change is one that a query provides for: to a slot that it has, by position or name, to
    a level of the right kind, or to a shard that has a table. -/
def Fits (q : Query α) : Adjustment → Prop
  | .bind slot _ => slot < q.slots.length
  | .bindNamed name _ => name ∈ q.slots
  | .consistency _ => True
  | .serial level => level.isSerial = true
  | .pin shard => shard.addresses q.numShards = true

/-- The value that a change binds to a slot. A name is that of the first slot that has it. -/
def valueFor? (q : Query α) (slot : Nat) : Adjustment → Option Value
  | .bind i value => if i = slot then some value else none
  | .bindNamed name value => if q.slots.idxOf? name = some slot then some value else none
  | _ => none

/-- The consistency that a change sets. -/
def consistency? : Adjustment → Option Consistency
  | .consistency level => some level
  | _ => none

/-- The serial consistency that a change sets. -/
def serial? : Adjustment → Option Consistency
  | .serial level => some level
  | _ => none

/-- The shard that a change pins. -/
def pin? : Adjustment → Option ShardId
  | .pin shard => some shard
  | _ => none

variable {β : Type}

/-- What is set by the last of those changes that set it. -/
def lastOf (sets : Adjustment → Option β) (changes : List Adjustment) : Option β :=
  changes.reverse.findSome? sets

theorem lastOf_concat (sets : Adjustment → Option β) (changes : List Adjustment)
    (change : Adjustment) :
    lastOf sets (changes ++ [change]) = (sets change).or (lastOf sets changes) := by
  simp only [lastOf, List.reverse_append, List.reverse_singleton, List.singleton_append,
    List.findSome?_cons]
  cases sets change <;> rfl

/-- What a slot holds after a series of changes: the last value bound to it, or null. -/
def lastValue (q : Query α) (changes : List Adjustment) (slot : Nat) : Value :=
  (lastOf (valueFor? q slot) changes).getD .null

theorem lastValue_concat (q : Query α) (changes : List Adjustment) (change : Adjustment)
    (slot : Nat) :
    lastValue q (changes ++ [change]) slot =
      (change.valueFor? q slot).getD (lastValue q changes slot) := by
  rw [lastValue, lastOf_concat, Option.getD_or, lastValue]

end Adjustment

namespace Binder

/-! ## Admitted changes -/

/-- A binder that has not been executed admits the changes that its query provides for. -/
theorem exists_adjust_iff {b : Binder α} (hlen : b.values.length = b.query.slots.length)
    {change : Adjustment} :
    (∃ b', b.adjust change = .ok b') ↔ b.executed = false ∧ change.Fits b.query := by
  simp only [adjust_eq_ok_iff, exists_and_left]
  refine and_congr_right fun _ => ?_
  constructor
  · rintro ⟨b', h⟩
    cases h with
    | bind value hslot => exact lt_of_lt_of_eq hslot hlen
    | bindNamed value hname hslot => exact List.isSome_idxOf?.mp (by rw [hname]; rfl)
    | consistency level => exact trivial
    | serial hlevel => exact hlevel
    | pin hshard => exact hshard
  · intro h
    cases change with
    | bind slot value => exact ⟨_, .bind value (lt_of_lt_of_eq h hlen.symm)⟩
    | bindNamed name value =>
      obtain ⟨slot, hname⟩ := Option.isSome_iff_exists.mp (List.isSome_idxOf?.mpr h)
      obtain ⟨hslot, -⟩ := List.idxOf?_eq_some_iff.mp hname
      exact ⟨_, .bindNamed value hname (lt_of_lt_of_eq hslot hlen.symm)⟩
    | consistency level => exact ⟨_, .consistency level⟩
    | serial level => exact ⟨_, .serial h⟩
    | pin shard => exact ⟨_, .pin h⟩

/-! ## What a binder reflects -/

/-- The binder holds what a series of changes has set last, and where none has set anything
    what it held at first: null in each slot, no consistency, and the pin of its query. What it
    holds is fit for execution: a value for every slot, a serial consistency that is one, and a
    pinned shard that has a table. -/
structure Reflects (b : Binder α) (q : Query α) (changes : List Adjustment) : Prop where
  query : b.query = q
  length_values : b.values.length = q.slots.length
  values : ∀ slot < q.slots.length,
    b.values[slot]? = some (Adjustment.lastValue q changes slot)
  consistency : b.consistency = Adjustment.lastOf Adjustment.consistency? changes
  serial : b.serial = Adjustment.lastOf Adjustment.serial? changes
  pinned : b.pinned = (Adjustment.lastOf Adjustment.pin? changes).or q.options.pinned
  serial_isSerial : ∀ level, b.serial = some level → level.isSerial = true
  pinned_addresses : ∀ shard, b.pinned = some shard → shard.addresses q.numShards = true

/-- A fresh binder reflects no changes. -/
theorem reflects_fresh {q : Query α} (hq : q.Sound) (id : Nat) : (fresh id q).Reflects q [] where
  query := rfl
  length_values := List.length_replicate
  values slot hslot := List.getElem?_replicate_of_lt hslot
  consistency := rfl
  serial := rfl
  pinned := rfl
  serial_isSerial := by rintro level ⟨⟩
  pinned_addresses := hq.pinned_addresses

namespace Reflects

variable {b b' : Binder α} {q : Query α} {changes : List Adjustment}

/-- To be executed is none of what a binder reflects. -/
theorem freeze (h : b.Reflects q changes) : b.freeze.Reflects q changes where
  query := h.query
  length_values := h.length_values
  values := h.values
  consistency := h.consistency
  serial := h.serial
  pinned := h.pinned
  serial_isSerial := h.serial_isSerial
  pinned_addresses := h.pinned_addresses

theorem values_set (h : b.Reflects q changes) {i : Nat} {value : Value} {change : Adjustment}
    (hchange : ∀ slot, change.valueFor? q slot = if i = slot then some value else none) :
    ∀ slot < q.slots.length, (b.values.set i value)[slot]? =
      some (Adjustment.lastValue q (changes ++ [change]) slot) := by
  intro slot hslot
  rw [Adjustment.lastValue_concat, hchange]
  by_cases heq : i = slot
  · subst heq
    rw [if_pos rfl, List.getElem?_set_self (by rw [h.length_values]; exact hslot),
      Option.getD_some]
  · rw [if_neg heq, List.getElem?_set_ne heq, h.values slot hslot, Option.getD_none]

/-! What a change does not set is what the last one before it has set. -/

theorem values_kept (h : b.Reflects q changes) {change : Adjustment}
    (hchange : ∀ slot, change.valueFor? q slot = none) :
    ∀ slot < q.slots.length, b.values[slot]? =
      some (Adjustment.lastValue q (changes ++ [change]) slot) := by
  intro slot hslot
  rw [Adjustment.lastValue_concat, hchange, Option.getD_none, h.values slot hslot]

theorem consistency_kept (h : b.Reflects q changes) {change : Adjustment}
    (hchange : change.consistency? = none) :
    b.consistency = Adjustment.lastOf Adjustment.consistency? (changes ++ [change]) := by
  rw [Adjustment.lastOf_concat, hchange, Option.none_or, h.consistency]

theorem serial_kept (h : b.Reflects q changes) {change : Adjustment}
    (hchange : change.serial? = none) :
    b.serial = Adjustment.lastOf Adjustment.serial? (changes ++ [change]) := by
  rw [Adjustment.lastOf_concat, hchange, Option.none_or, h.serial]

theorem pinned_kept (h : b.Reflects q changes) {change : Adjustment}
    (hchange : change.pin? = none) :
    b.pinned =
      (Adjustment.lastOf Adjustment.pin? (changes ++ [change])).or q.options.pinned := by
  rw [Adjustment.lastOf_concat, hchange, Option.none_or, h.pinned]

/-- A change that is admitted is the last one of its kind, and leaves the rest as it is. -/
theorem admits (h : b.Reflects q changes) {change : Adjustment} (hchange : b.Admits change b') :
    b'.Reflects q (changes ++ [change]) := by
  cases hchange with
  | bind value hslot =>
    exact
      { h with
        length_values := List.length_set.trans h.length_values
        values := h.values_set fun slot => rfl
        consistency := h.consistency_kept rfl
        serial := h.serial_kept rfl
        pinned := h.pinned_kept rfl }
  | @bindNamed name slot value hname hslot =>
    have hvalue (i : Nat) : (Adjustment.bindNamed name value).valueFor? q i =
        if slot = i then some value else none := by
      simp only [Adjustment.valueFor?, ← h.query, hname, Option.some.injEq]
    exact
      { h with
        length_values := List.length_set.trans h.length_values
        values := h.values_set hvalue
        consistency := h.consistency_kept rfl
        serial := h.serial_kept rfl
        pinned := h.pinned_kept rfl }
  | consistency level =>
    exact
      { h with
        values := h.values_kept fun slot => rfl
        consistency := by rw [Adjustment.lastOf_concat]; rfl
        serial := h.serial_kept rfl
        pinned := h.pinned_kept rfl }
  | serial hlevel =>
    exact
      { h with
        values := h.values_kept fun slot => rfl
        consistency := h.consistency_kept rfl
        serial := by rw [Adjustment.lastOf_concat]; rfl
        pinned := h.pinned_kept rfl
        serial_isSerial := by
          rintro level ⟨⟩
          exact hlevel }
  | pin hshard =>
    exact
      { h with
        values := h.values_kept fun slot => rfl
        consistency := h.consistency_kept rfl
        serial := h.serial_kept rfl
        pinned := by rw [Adjustment.lastOf_concat]; rfl
        pinned_addresses := by
          rintro shard ⟨⟩
          rw [← h.query]
          exact hshard }

end Reflects

end Binder

end RotatedShards
