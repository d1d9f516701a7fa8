import RotatedShards.Proofs.Execution.Foresight
import RotatedShards.Proofs.Execution.Ledger
import RotatedShards.Proofs.Query.Bindings

/-!
# Changes of a binder in a run

The replies of a client tell which changes of a binder have been admitted. Whatever else is
done in the course of a run, the binder reflects just these, and it admits what its query
provides for until it is executed for the first time.

Results:
* `Client.Tracks.step`, `Client.Tracks.run`: what a command, and so a run, does to a binder.
* `Client.reflects_admitted`: the binders of built queries reflect the changes admitted.
-/

namespace RotatedShards

variable {σ α : Type}

namespace Client

/-! ## Admitted changes -/

/-- The change of a binder that a command has made, as the reply to it tells. -/
def Command.admitted? (k : Nat) : Command σ α → Reply α → Option Adjustment
  | .adjust binder change, .adjusted (.ok ()) => if binder = k then some change else none
  | _, _ => none

/-- The changes of a binder that have been made in a run, in their order. -/
def admitted (k : Nat) (commands : List (Command σ α)) (replies : List (Reply α)) :
    List Adjustment :=
  (List.zipWith (Command.admitted? k) commands replies).filterMap id

theorem admitted_cons (k : Nat) (command : Command σ α) (commands : List (Command σ α))
    (reply : Reply α) (replies : List (Reply α)) :
    admitted k (command :: commands) (reply :: replies) =
      (command.admitted? k reply).toList ++ admitted k commands replies := by
  rw [admitted, List.zipWith_cons_cons, List.filterMap_cons]
  cases command.admitted? k reply <;> rfl

/-- What a command makes of a binder. -/
def Command.onBinder (command : Command σ α) (k : Nat) (b : Binder α) : Binder α :=
  match command.call? with
  | some (binder, call) => if binder = k then b.call call else b
  | none => b

theorem Command.getElem?_onBinders (command : Command σ α) {bs : List (Binder α)} {k : Nat}
    {b : Binder α} (hb : bs[k]? = some b) :
    (command.onBinders bs)[k]? = some (command.onBinder k b) := by
  unfold onBinders onBinder
  cases command.call? with
  | some made =>
    rw [List.getElem?_modify, hb]
    rfl
  | none =>
    obtain ⟨hlt, -⟩ := List.getElem?_eq_some_iff.mp hb
    rw [List.getElem?_append_left hlt, hb]

variable [Backend σ]

theorem step_adjust_fst {c : Client σ α} {k : Nat} {b : Binder α} (hb : c.binders[k]? = some b)
    (change : Adjustment) :
    (c.step (.adjust k change)).1 = .adjusted ((b.adjust change).map fun _ => ()) := by
  simp only [step, hb, adjust]
  cases b.adjust change <;> rfl

theorem step_adjust_of_error {c : Client σ α} {k : Nat} {b : Binder α}
    (hb : c.binders[k]? = some b) {change : Adjustment} {e : QueryError}
    (h : b.adjust change = .error e) : (c.step (.adjust k change)).2 = c := by
  simp only [step, hb, adjust, h]
  rfl

/-- What a command does to a binder: it makes a change that the binder admits, and the reply
    tells so, or it makes none, and freezes the binder if it executes it. -/
theorem onBinder_cases {c : Client σ α} {k : Nat} {b : Binder α} (hb : c.binders[k]? = some b)
    (command : Command σ α) :
    (∃ change, command.admitted? k (c.step command).1 = some change ∧
        command.executed? = none ∧ b.Admits change (command.onBinder k b)) ∨
      (command.admitted? k (c.step command).1 = none ∧
        command.onBinder k b = if command.executed? = some k then b.freeze else b) := by
  have hexecuted (binder : Nat) : (if binder = k then b.freeze else b) =
      if some binder = some k then b.freeze else b := by simp only [Option.some.injEq]
  cases command with
  | execute binder mode => exact Or.inr ⟨rfl, hexecuted binder⟩
  | start binder mode => exact Or.inr ⟨rfl, hexecuted binder⟩
  | adjust binder change =>
    by_cases hk : binder = k
    · subst hk
      have hcalled : (Command.adjust binder change : Command σ α).onBinder binder b =
          b.call (.adjust change) := if_pos rfl
      rw [step_adjust_fst hb, hcalled]
      cases hadjust : b.adjust change with
      | error e =>
        simp only [Binder.call, hadjust]
        exact Or.inr ⟨rfl, rfl⟩
      | ok b' =>
        obtain ⟨-, hadmits⟩ := Binder.adjust_eq_ok_iff.mp hadjust
        simp only [Binder.call, hadjust]
        exact Or.inl ⟨change, if_pos rfl, rfl, hadmits⟩
    · have hnone (reply : Reply α) :
          (Command.adjust binder change : Command σ α).admitted? k reply = none := by
        cases reply with
        | adjusted result =>
          cases result with
          | ok made => exact if_neg hk
          | error e => rfl
        | _ => rfl
      exact Or.inr ⟨hnone _, if_neg hk⟩
  | _ => exact Or.inr ⟨rfl, rfl⟩

/-! ## Runs -/

omit [Backend σ] in
theorem numbered_fresh (store : σ) (systemClock : Instant) :
    (fresh store systemClock : Client σ α).Numbered := by
  rintro k b ⟨⟩

/-- The binders go by their positions after each command. -/
theorem Numbered.step {c : Client σ α} (h : c.Numbered) (command : Command σ α) :
    (c.step command).2.Numbered := by
  intro k b hb
  rw [step_binders h] at hb
  rcases Command.onBinders_cases hb with ⟨b', hb', rfl | ⟨call, rfl⟩⟩ | ⟨q, -, rfl, rfl⟩
  · exact h k b hb'
  · exact (b'.id_call call).trans (h k b' hb')
  · rfl

theorem Numbered.run {c : Client σ α} (h : c.Numbered) (commands : List (Command σ α)) :
    (c.run commands).2.Numbered := by
  induction commands generalizing c with
  | nil => exact h
  | cons command rest ih => exact ih (h.step command)

/-- A binder of a client reflects a series of changes, and has been executed or not. -/
structure Tracks (c : Client σ α) (k : Nat) (q : Query α) (changes : List Adjustment)
    (executed : Bool) : Prop where
  numbered : c.Numbered
  binder : ∃ b, c.binders[k]? = some b ∧ b.Reflects q changes ∧ b.executed = executed

theorem tracks_openBinder {c : Client σ α} (h : c.Numbered) {q : Query α} (hq : q.Sound) :
    (c.openBinder q).Tracks c.binders.length q [] false where
  numbered := h.step (.openBinder q)
  binder := ⟨_, List.getElem?_concat_length, Binder.reflects_fresh hq _, rfl⟩

namespace Tracks

variable {c : Client σ α} {k : Nat} {q : Query α} {changes : List Adjustment} {executed : Bool}

/-- What a command does to a binder: it makes the change that it is admitted to make, and to be
    executed is all else that can happen to it. -/
theorem step (h : c.Tracks k q changes executed) (command : Command σ α) :
    (c.step command).2.Tracks k q
      (changes ++ (command.admitted? k (c.step command).1).toList)
      (executed || command.executed? == some k) := by
  obtain ⟨b, hb, hreflects, rfl⟩ := h.binder
  refine ⟨h.numbered.step command, command.onBinder k b, ?_, ?_⟩
  · rw [step_binders h.numbered]
    exact command.getElem?_onBinders hb
  rcases onBinder_cases hb command with ⟨change, hadmitted, hnone, hadmits⟩ | ⟨hnone, hbinder⟩
  · rw [hadmitted, hnone]
    refine ⟨hreflects.admits hadmits, hadmits.executed_eq.trans (Bool.or_false _).symm⟩
  · rw [hnone, hbinder, Option.toList_none, List.append_nil]
    by_cases hk : command.executed? = some k
    · rw [if_pos hk, hk, beq_self_eq_true, Bool.or_true]
      exact ⟨hreflects.freeze, rfl⟩
    · rw [if_neg hk, beq_eq_false_iff_ne.mpr hk, Bool.or_false]
      exact ⟨hreflects, rfl⟩

/-- What a run does to a binder. -/
theorem run (h : c.Tracks k q changes executed) (commands : List (Command σ α)) :
    (c.run commands).2.Tracks k q (changes ++ admitted k commands (c.run commands).1)
      (executed || commands.any (·.executed? == some k)) := by
  induction commands generalizing c changes executed with
  | nil =>
    rw [List.any_nil, Bool.or_false]
    show c.Tracks k q (changes ++ []) executed
    rw [List.append_nil]
    exact h
  | cons command rest ih =>
    have hrest := ih (h.step command)
    rw [List.append_assoc, Bool.or_assoc] at hrest
    rw [run_cons, admitted_cons]
    exact hrest

end Tracks

/-- Whatever is done with a client, each binder of a built query reflects the changes of it that
    have been admitted: the last value for each slot, by position or by name, the last levels,
    and the last pin or that of the definition. It admits the changes that its query provides
    for as long as it has not been executed. A change that is refused leaves the client as it
    is, and no command but a change that is admitted does more to a binder than to freeze
    it. -/
theorem reflects_admitted (store : σ) (systemClock : Instant) (before : List (Command σ α))
    {d : Definition α} {q : Query α} (h : d.build = .ok q) (after : List (Command σ α)) :
    let start : Client σ α := ((fresh store systemClock).run before).2
    let k := start.binders.length
    let opened := (start.step (.openBinder q)).2
    let c := (opened.run after).2
    q.slots = d.slots ∧ q.options.pinned = d.options.pinned ∧
    ∃ b, c.binders[k]? = some b ∧ b.Reflects q (admitted k after (opened.run after).1) ∧
      (b.executed = true ↔ ∃ command ∈ after, command.executed? = some k) ∧
      (∀ change, (c.step (.adjust k change)).1 = .adjusted (.ok ()) ↔
        b.executed = false ∧ change.Fits q) ∧
      (∀ change e, (c.step (.adjust k change)).1 = .adjusted (.error e) →
        (c.step (.adjust k change)).2 = c) ∧
      ∀ command, command.admitted? k (c.step command).1 = none →
        ∃ b', (c.step command).2.binders[k]? = some b' ∧ (b' = b ∨ b' = b.freeze) := by
  intro start k opened c
  have hnumbered : start.Numbered := (numbered_fresh store systemClock).run before
  have htracks : c.Tracks k q _ _ :=
    (tracks_openBinder hnumbered (Definition.build_sound h)).run after
  obtain ⟨b, hb, hreflects, hexecuted⟩ := htracks.binder
  have hdefined : q.slots = d.slots ∧ q.options.pinned = d.options.pinned := by
    obtain ⟨_, _, -, -, -, -, -, -, rfl⟩ := Definition.build_eq_ok h
    exact ⟨rfl, rfl⟩
  have hlength : b.values.length = b.query.slots.length := by
    rw [hreflects.query]
    exact hreflects.length_values
  refine ⟨hdefined.1, hdefined.2, b, hb, hreflects, ?_, fun change => ?_, fun change e he => ?_,
    fun command hcommand => ?_⟩
  · rw [hexecuted, Bool.false_or, List.any_eq_true]
    simp only [beq_iff_eq]
    exact Iff.rfl
  · rw [step_adjust_fst hb, ← hreflects.query, ← Binder.exists_adjust_iff hlength]
    cases b.adjust change with
    | error e => simp [Except.map]
    | ok b' => simp [Except.map]
  · rw [step_adjust_fst hb] at he
    cases hadjust : b.adjust change with
    | error e' => exact step_adjust_of_error hb hadjust
    | ok b' =>
      rw [hadjust] at he
      cases he
  · refine ⟨command.onBinder k b, ?_, ?_⟩
    · rw [step_binders htracks.numbered]
      exact command.getElem?_onBinders hb
    · rcases onBinder_cases hb command with ⟨change, hadmitted, -⟩ | ⟨-, hbinder⟩
      · rw [hcommand] at hadmitted
        cases hadmitted
      · rw [hbinder]
        by_cases hk : command.executed? = some k
        · exact Or.inr (if_pos hk)
        · exact Or.inl (if_neg hk)

/-- The second of two reads by key is given a key by position and another one by name, while
    the first one is given a third. Neither a second slot, nor a fourth hour, nor a level that
    is not serial is admitted, nor anything once the read has been executed. -/
def changing : List (Command MemoryStore Event) :=
  [.adjust 1 (.bind 0 (.text "a")), .adjust 1 (.bindNamed "key" (.text "b")),
    .adjust 0 (.bind 0 (.text "c")), .adjust 1 (.bind 1 .null), .adjust 1 (.pin ⟨3⟩),
    .adjust 1 (.consistency .quorum), .adjust 1 (.serial .quorum), .execute 1 .async,
    .adjust 1 (.pin ⟨2⟩)]

/-- The second read holds the key that it was given by name, the level that suits it and no
    pin. A pin that it could have had before is refused once it has been executed. -/
theorem reflects_admitted_changing :
    let start : Client MemoryStore Event :=
      ((fresh (.empty 3) (.ofMillis 10000000)).run [.openBinder Ledger.keyRead]).2
    let c := ((start.step (.openBinder Ledger.keyRead)).2.run changing).2
    Ledger.eventByKey.build = .ok Ledger.keyRead ∧
      (∃ b, c.binders[1]? = some b ∧ b.values = [.text "b"] ∧ b.consistency = some .quorum ∧
        b.serial = none ∧ b.pinned = none) ∧
      (c.step (.adjust 1 (.pin ⟨2⟩))).1 ≠ .adjusted (.ok ()) := by
  intro start c
  have hbuilt : Ledger.eventByKey.build = .ok Ledger.keyRead := rfl
  obtain ⟨-, -, b, hb, hreflects, hexecuted, hadmits, -, -⟩ := reflects_admitted
    (MemoryStore.empty 3) (.ofMillis 10000000) [.openBinder Ledger.keyRead] hbuilt changing
  have hchanges : b.Reflects Ledger.keyRead
      [.bind 0 (.text "a"), .bindNamed "key" (.text "b"), .consistency .quorum] := hreflects
  refine ⟨hbuilt, ⟨b, hb, ?_, hchanges.consistency, hchanges.serial, hchanges.pinned⟩, ?_⟩
  · have hlength := hchanges.length_values
    have hvalue := hchanges.values 0 (by decide)
    obtain ⟨value, hvalues⟩ := List.length_eq_one_iff.mp hlength
    rw [hvalues] at hvalue ⊢
    cases hvalue
    rfl
  · intro haccepted
    have hrun := hexecuted.mpr ⟨.execute 1 .async, by simp [changing], rfl⟩
    rw [((hadmits _).mp haccepted).1] at hrun
    cases hrun

end Client

end RotatedShards
