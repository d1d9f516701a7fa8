import Mathlib.Data.List.Induction
import Mathlib.Data.List.Nodup
import RotatedShards.Proofs.Query.Bindings
import RotatedShards.Store.Event

/-!
# Binding by name

To bind a value to each slot by the slot's own name is as good as to bind it by position where
the slots have different names. A name is that of the first slot that has it, so a slot whose
name an earlier one has cannot be reached, and building a query does not rule such slots out.

Results:
* `Binder.exists_adjustAll`: a series of changes that a query provides for is admitted.
* `Adjustment.lastOf_byPosition`, `Adjustment.lastOf_byName`: the values that are bound last.
* `Definition.named_binding`: the binders after both series.
* `Definition.named_binding_twins`: two slots with one name.
-/

namespace RotatedShards

variable {α : Type}

/-! ## Series of changes -/

namespace Binder

/-- The binder after a series of changes, if all of them are admitted. -/
def adjustAll (b : Binder α) (changes : List Adjustment) : Except QueryError (Binder α) :=
  changes.foldlM adjust b

/-- A series of changes that a query provides for is admitted. -/
theorem exists_adjustAll {b : Binder α} {q : Query α} {changes more : List Adjustment}
    (h : b.Reflects q changes) (hexecuted : b.executed = false)
    (hfits : ∀ change ∈ more, change.Fits q) :
    ∃ b', b.adjustAll more = .ok b' ∧ b'.Reflects q (changes ++ more) := by
  induction more generalizing b changes with
  | nil => exact ⟨b, rfl, by rw [List.append_nil]; exact h⟩
  | cons change rest ih =>
    have hfit : change.Fits b.query := by
      rw [h.query]
      exact hfits change List.mem_cons_self
    have hlength : b.values.length = b.query.slots.length := by
      rw [h.query]
      exact h.length_values
    obtain ⟨b₁, hb₁⟩ := (exists_adjust_iff hlength).mpr ⟨hexecuted, hfit⟩
    obtain ⟨-, hadmits⟩ := adjust_eq_ok_iff.mp hb₁
    obtain ⟨b', hb', hreflects⟩ := ih (h.admits hadmits) (hadmits.executed_eq.trans hexecuted)
      fun change hmem => hfits change (List.mem_cons_of_mem _ hmem)
    refine ⟨b', ?_, ?_⟩
    · rw [adjustAll, List.foldlM_cons, hb₁]
      exact hb'
    · rw [List.append_assoc] at hreflects
      exact hreflects

theorem materialize_congr {b b' : Binder α} (hquery : b'.query = b.query)
    (hvalues : b'.values = b.values) (hconsistency : b'.consistency = b.consistency)
    (hserial : b'.serial = b.serial) (shard : ShardId) :
    b'.materialize shard = b.materialize shard := by
  simp only [materialize, hquery, hvalues, hconsistency, hserial]

end Binder

/-! ## One value for each slot -/

namespace Adjustment

/-- Binds values to the slots by position. -/
def byPosition (values : List Value) : List Adjustment := values.mapIdx .bind

/-- Binds values to the slots by the slots' own names. -/
def byName (slots : List String) (values : List Value) : List Adjustment :=
  List.zipWith .bindNamed slots values

variable {q : Query α} {values : List Value} {change : Adjustment}

theorem exists_bind_of_mem (h : change ∈ byPosition values) :
    ∃ slot value, slot < values.length ∧ change = .bind slot value := by
  obtain ⟨slot, hslot, rfl⟩ := List.mem_mapIdx.mp h
  exact ⟨slot, _, hslot, rfl⟩

theorem exists_bindNamed_of_mem {slots : List String} (h : change ∈ byName slots values) :
    ∃ name value, name ∈ slots ∧ change = .bindNamed name value := by
  obtain ⟨i, hi, rfl⟩ := List.mem_iff_getElem.mp h
  simp only [byName, List.getElem_zipWith]
  exact ⟨_, _, List.getElem_mem _, rfl⟩

theorem fits_byPosition (hlength : values.length = q.slots.length) :
    ∀ change ∈ byPosition values, change.Fits q := by
  intro change hchange
  obtain ⟨slot, value, hslot, rfl⟩ := exists_bind_of_mem hchange
  exact lt_of_lt_of_eq hslot hlength

theorem fits_byName : ∀ change ∈ byName q.slots values, change.Fits q := by
  intro change hchange
  obtain ⟨name, value, hname, rfl⟩ := exists_bindNamed_of_mem hchange
  exact hname

theorem lastOf_eq_none {β : Type} {sets : Adjustment → Option β} {changes : List Adjustment}
    (h : ∀ change ∈ changes, sets change = none) : lastOf sets changes = none := by
  refine List.findSome?_eq_none_iff.mpr fun change hchange => ?_
  exact h change (List.mem_reverse.mp hchange)

theorem lastOf_byPosition_eq_none {β : Type} {sets : Adjustment → Option β}
    (h : ∀ slot value, sets (.bind slot value) = none) (values : List Value) :
    lastOf sets (byPosition values) = none := by
  refine lastOf_eq_none fun change hchange => ?_
  obtain ⟨slot, value, -, rfl⟩ := exists_bind_of_mem hchange
  exact h slot value

theorem lastOf_byName_eq_none {β : Type} {sets : Adjustment → Option β}
    {slots : List String} (values : List Value)
    (h : ∀ name ∈ slots, ∀ value, sets (.bindNamed name value) = none) :
    lastOf sets (byName slots values) = none := by
  refine lastOf_eq_none fun change hchange => ?_
  obtain ⟨name, value, hname, rfl⟩ := exists_bindNamed_of_mem hchange
  exact h name hname value

/-- The last value that is bound to a slot by position is the one for it. -/
theorem lastOf_byPosition (q : Query α) (values : List Value) (slot : Nat) :
    lastOf (valueFor? q slot) (byPosition values) = values[slot]? := by
  induction values using List.reverseRecOn with
  | nil => rfl
  | append_singleton values value ih =>
    rw [byPosition, List.mapIdx_concat, lastOf_concat, ← byPosition, ih, valueFor?]
    by_cases heq : values.length = slot
    · subst heq
      rw [if_pos rfl, Option.some_or, List.getElem?_concat_length]
    · rw [if_neg heq, Option.none_or, List.getElem?_append]
      by_cases hlt : slot < values.length
      · rw [if_pos hlt]
      · rw [if_neg hlt, List.getElem?_eq_none (by omega), List.getElem?_eq_none (by simp; omega)]

theorem lastOf_congr {β : Type} {sets : Adjustment → Option β} {changes changes' : List Adjustment}
    (h : changes.map sets = changes'.map sets) : lastOf sets changes = lastOf sets changes' := by
  have hmap (changes : List Adjustment) :
      lastOf sets changes = (changes.map sets).reverse.findSome? id := by
    rw [lastOf, ← List.map_reverse, List.findSome?_map]
    rfl
  rw [hmap, hmap, h]

theorem idxOf?_getElem_of_nodup (hslots : q.slots.Nodup) {i : Nat} (hi : i < q.slots.length) :
    q.slots.idxOf? q.slots[i] = some i := by
  refine List.idxOf?_eq_some_iff.mpr ⟨hi, rfl, fun j hj hname => ?_⟩
  have := hslots.getElem_inj_iff.mp hname
  omega

/-- Where all names are different, to bind by name is to bind by position. -/
theorem lastOf_byName (hslots : q.slots.Nodup) (hlength : values.length = q.slots.length)
    (slot : Nat) : lastOf (valueFor? q slot) (byName q.slots values) = values[slot]? := by
  rw [← lastOf_byPosition q values slot]
  refine lastOf_congr (List.ext_getElem ?_ fun i hname hposition => ?_)
  · simp [byName, byPosition, hlength]
  · have hi : i < q.slots.length := by
      simp only [byPosition, List.length_map, List.length_mapIdx] at hposition
      omega
    simp only [byName, byPosition, List.getElem_map, List.getElem_zipWith, List.getElem_mapIdx,
      valueFor?, idxOf?_getElem_of_nodup hslots hi, Option.some.injEq]

theorem lastOf_byName_of_shadowed {slot earlier : Nat} (hlt : earlier < slot)
    (hname : q.slots[earlier]? = q.slots[slot]?) (values : List Value) :
    lastOf (valueFor? q slot) (byName q.slots values) = none := by
  refine lastOf_byName_eq_none values fun name _ value => if_neg fun hindex => ?_
  obtain ⟨hslot, hfirst, hnot⟩ := List.idxOf?_eq_some_iff.mp hindex
  rw [List.getElem?_eq_getElem (by omega), List.getElem?_eq_getElem hslot, Option.some.injEq]
    at hname
  exact hnot earlier hlt (hname.trans hfirst)

end Adjustment

/-! ## Bindings of built queries -/

theorem Binder.Reflects.values_eq {b : Binder α} {q : Query α} {changes : List Adjustment}
    (h : b.Reflects q changes) {values : List Value} (hlength : values.length = q.slots.length)
    (hlast : ∀ slot, Adjustment.lastOf (Adjustment.valueFor? q slot) changes = values[slot]?) :
    b.values = values := by
  refine List.ext_getElem? fun slot => ?_
  by_cases hslot : slot < q.slots.length
  · rw [h.values slot hslot, Adjustment.lastValue, hlast, List.getElem?_eq_getElem (by omega),
      Option.getD_some]
  · rw [List.getElem?_eq_none (by rw [h.length_values]; omega), List.getElem?_eq_none (by omega)]

namespace Definition

/-- Both series of changes are admitted by a fresh binder, and each of them is reflected. -/
theorem exists_bound {q : Query α} (hq : q.Sound) (id : Nat) {values : List Value}
    (hlength : values.length = q.slots.length) :
    ∃ named positional,
      (Binder.fresh id q).adjustAll (Adjustment.byName q.slots values) = .ok named ∧
      (Binder.fresh id q).adjustAll (Adjustment.byPosition values) = .ok positional ∧
      named.Reflects q (Adjustment.byName q.slots values) ∧
      positional.Reflects q (Adjustment.byPosition values) := by
  have hfresh := Binder.reflects_fresh hq id
  obtain ⟨named, hnamed, hbyName⟩ := Binder.exists_adjustAll hfresh rfl Adjustment.fits_byName
  obtain ⟨positional, hpositional, hbyPosition⟩ :=
    Binder.exists_adjustAll hfresh rfl (Adjustment.fits_byPosition hlength)
  exact ⟨named, positional, hnamed, hpositional, hbyName, hbyPosition⟩

/-- Two binders of the query of a definition, one bound by name and one by position, with a
    value for each slot. All these changes are admitted. The second binder holds the values in
    their order. The first one holds null in each slot whose name an earlier slot has. But if
    all names are different, both hold the same, and make the same statement for every shard.
    So every slot can be reached by its name exactly if all names are different, which is
    nothing that building sees to. -/
theorem named_binding {d : Definition α} {q : Query α} (h : d.build = .ok q) (id : Nat) :
    (∀ values : List Value, values.length = q.slots.length →
      ∃ named positional,
        (Binder.fresh id q).adjustAll (Adjustment.byName q.slots values) = .ok named ∧
        (Binder.fresh id q).adjustAll (Adjustment.byPosition values) = .ok positional ∧
        positional.values = values ∧
        (∀ earlier slot, earlier < slot → slot < q.slots.length →
          q.slots[earlier]? = q.slots[slot]? → named.values[slot]? = some .null) ∧
        (q.slots.Nodup → named.values = values ∧
          ∀ shard, named.materialize shard = positional.materialize shard)) ∧
    ((∀ values : List Value, values.length = q.slots.length →
      ∃ named, (Binder.fresh id q).adjustAll (Adjustment.byName q.slots values) = .ok named ∧
        named.values = values) ↔ q.slots.Nodup) := by
  have hbound (values : List Value) (hlength : values.length = q.slots.length) :=
    exists_bound (build_sound h) id hlength
  refine ⟨fun values hlength => ?_, fun hreached => ?_, fun hslots values hlength => ?_⟩
  · obtain ⟨named, positional, hnamed, hpositional, hbyName, hbyPosition⟩ := hbound values hlength
    have hvalues := hbyPosition.values_eq hlength (Adjustment.lastOf_byPosition q values)
    refine ⟨named, positional, hnamed, hpositional, hvalues, ?_, fun hslots => ?_⟩
    · intro earlier slot hlt hslot hname
      rw [hbyName.values slot hslot, Adjustment.lastValue,
        Adjustment.lastOf_byName_of_shadowed hlt hname values, Option.getD_none]
    · have hsame := hbyName.values_eq hlength (Adjustment.lastOf_byName hslots hlength)
      refine ⟨hsame, Binder.materialize_congr ?_ (hsame.trans hvalues.symm) ?_ ?_⟩
      · rw [hbyName.query, hbyPosition.query]
      · rw [hbyName.consistency, hbyPosition.consistency,
          Adjustment.lastOf_byName_eq_none values fun _ _ _ => rfl,
          Adjustment.lastOf_byPosition_eq_none fun _ _ => rfl]
      · rw [hbyName.serial, hbyPosition.serial,
          Adjustment.lastOf_byName_eq_none values fun _ _ _ => rfl,
          Adjustment.lastOf_byPosition_eq_none fun _ _ => rfl]
  · -- a slot that cannot be reached does not get the value that is meant for it
    refine List.nodup_iff_getElem?_ne_getElem?.mpr fun earlier slot hlt hslot hname => ?_
    let values : List Value := List.replicate q.slots.length (.boolean true)
    have hlength : values.length = q.slots.length := List.length_replicate
    obtain ⟨named, hnamed, hvalues⟩ := hreached values hlength
    obtain ⟨named', -, hnamed', -, hbyName, -⟩ := hbound values hlength
    rw [hnamed] at hnamed'
    cases hnamed'
    have hnull := hbyName.values slot hslot
    rw [Adjustment.lastValue, Adjustment.lastOf_byName_of_shadowed hlt hname values, hvalues,
      List.getElem?_replicate_of_lt hslot] at hnull
    cases hnull
  · obtain ⟨named, -, hnamed, -, hbyName, -⟩ := hbound values hlength
    exact ⟨named, hnamed, hbyName.values_eq hlength (Adjustment.lastOf_byName hslots hlength)⟩

/-- A write to a single table, whose two slots have the given names. -/
def writer (key payload : String) : Definition Event :=
  { text := "INSERT INTO events (key, payload) VALUES (?, ?)", mapper := Event.mapper
    slots := [key, payload], statements := some (Event.insertStatements "events" 1)
    upsert := true, rotation := .default }

/-- The write, ready to be bound. -/
def write (key payload : String) : Query Event := (writer key payload).build.toOption.get rfl

/-- With two names, both slots are reached. -/
theorem named_binding_pair :
    (writer "key" "payload").build = .ok (write "key" "payload") ∧
      ∃ named, (Binder.fresh 0 (write "key" "payload")).adjustAll
          [.bindNamed "key" (.text "a"), .bindNamed "payload" (.text "b")] = .ok named ∧
        named.values = [.text "a", .text "b"] := by
  have hbuilt : (writer "key" "payload").build = .ok (write "key" "payload") := rfl
  obtain ⟨-, hreached⟩ := named_binding hbuilt 0
  have hslots : (write "key" "payload").slots.Nodup := by
    show ["key", "payload"].Nodup
    decide
  exact ⟨hbuilt, hreached.mpr hslots [.text "a", .text "b"] rfl⟩

/-- With one name for both slots, the key is overwritten by the payload, and the payload is
    null. -/
theorem named_binding_twins :
    (writer "k" "k").build = .ok (write "k" "k") ∧
      ∃ named positional,
        (Binder.fresh 0 (write "k" "k")).adjustAll
          [.bindNamed "k" (.text "a"), .bindNamed "k" (.text "b")] = .ok named ∧
        (Binder.fresh 0 (write "k" "k")).adjustAll
          [.bind 0 (.text "a"), .bind 1 (.text "b")] = .ok positional ∧
        named.values ≠ positional.values ∧
        (named.materialize .first).map BoundStatement.values = .ok [.text "b", .null] ∧
        (positional.materialize .first).map BoundStatement.values =
          .ok [.text "a", .text "b"] := by
  refine ⟨rfl, _, _, rfl, rfl, ?_, rfl, rfl⟩
  intro hsame
  have hpayload : some Value.null = some (Value.text "b") := congrArg (·[1]?) hsame
  cases hpayload

end Definition

end RotatedShards
