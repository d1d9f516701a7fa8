import RotatedShards.Proofs.Execution.Commands
import RotatedShards.Proofs.Execution.Dispatch
import RotatedShards.Proofs.Query.Bindings

/-!
# Statements before they are sent

A binder has a statement for each table and for no other id, with what the calls on it have
left it holding. Where the shard of an execution is known beforehand, so is the statement
that it sends: the one that the binder shows for its pin, or for the only table.

Results:
* `Binder.reflects_after`: what a binder holds after any calls.
* `Binder.carries_of_materialize`: what a statement carries, and to which table.
* `Binder.exists_materialize_iff`, `Binder.materialize_eq_error`: which ids have a statement, and
  what is wrong with the others.
* `Binder.boundStatement_eq`: the statement that is shown is that of the route.
* `Definition.previewed_of_build`: what the binders of a built query show and send.
-/

namespace RotatedShards

variable {σ α : Type}

namespace Binder

/-! ## What a binder holds -/

/-- The changes among a series of calls that a binder admits, in their order. -/
def admitted (b : Binder α) : List Call → List Adjustment
  | [] => []
  | .execute _ :: rest => b.freeze.admitted rest
  | .adjust change :: rest =>
    match b.adjust change with
    | .ok b' => change :: b'.admitted rest
    | .error _ => b.admitted rest

/-- After any calls a binder reflects the changes that it has admitted. -/
theorem reflects_after {b : Binder α} {q : Query α} {changes : List Adjustment}
    (h : b.Reflects q changes) (calls : List Call) :
    (b.after calls).Reflects q (changes ++ b.admitted calls) := by
  induction calls generalizing b changes with
  | nil =>
    rw [admitted, List.append_nil]
    exact h
  | cons c rest ih =>
    show ((b.call c).after rest).Reflects q _
    cases c with
    | execute mode => exact ih h.freeze
    | adjust change =>
      simp only [call, admitted]
      cases hadjust : b.adjust change with
      | error e => exact ih h
      | ok b' =>
        have hrest := ih (h.admits (adjust_eq_ok_iff.mp hadjust).2)
        rwa [List.append_assoc] at hrest

/-! ## Statements for ids -/

/-- The ids that have a statement are those that address a table. Nothing else can be wrong with
    one: there is a value for every parameter. -/
theorem materialize_cases {b : Binder α} (hb : b.Sound) (shard : ShardId) :
    (shard.addresses b.query.numShards = true ∧
      ∃ statement, b.materialize shard = .ok statement) ∨
    (¬ shard.addresses b.query.numShards = true ∧
      b.materialize shard = .error (.configuration (.noStatementFor shard b.query.numShards))) := by
  by_cases hs : shard.addresses b.query.numShards = true
  · exact Or.inl ⟨hs, exists_materialize hb hs⟩
  · refine Or.inr ⟨hs, ?_⟩
    rw [ShardId.addresses_iff, ← hb.query_sound.length_statements] at hs
    rw [← hb.query_sound.length_statements]
    unfold materialize
    cases hi : shard.tableIndex? with
    | none => rfl
    | some index => exact if_neg fun hlt => hs ⟨index, hi, hlt⟩

theorem exists_materialize_iff {b : Binder α} (hb : b.Sound) {shard : ShardId} :
    (∃ statement, b.materialize shard = .ok statement) ↔
      -1 ≤ shard.raw.toInt ∧ shard.raw.toInt < b.query.numShards := by
  rw [← ShardId.addresses_iff_toInt hb.query_sound.numShards_pos]
  rcases materialize_cases hb shard with ⟨hs, hst⟩ | ⟨hs, he⟩
  · exact iff_of_true hst hs
  · refine iff_of_false ?_ hs
    rintro ⟨statement, hst⟩
    rw [he] at hst
    cases hst

theorem materialize_eq_error {b : Binder α} (hb : b.Sound) {shard : ShardId} {e : QueryError}
    (h : b.materialize shard = .error e) :
    e = .configuration (.noStatementFor shard b.query.numShards) := by
  rcases materialize_cases hb shard with ⟨-, statement, hst⟩ | ⟨-, he⟩
  · rw [hst] at h
    cases h
  · rw [he] at h
    cases h
    rfl

/-- The statement for an id carries what the binder holds to the table of that id. -/
theorem carries_of_materialize {b : Binder α} (hb : b.Sound) {shard : ShardId}
    {statement : BoundStatement} (h : b.materialize shard = .ok statement) :
    b.Carries statement ∧ statement.shard.raw.toInt = max shard.raw.toInt 0 := by
  refine ⟨Makes.carries hb ⟨shard, h⟩, ?_⟩
  obtain ⟨index, prepared, hi, hprepared, -, rfl⟩ := materialize_eq_ok_iff.mp h
  obtain ⟨hlt, -⟩ := List.getElem?_eq_some_iff.mp hprepared
  have hlength := hb.query_sound.length_statements
  have hids := hb.query_sound.numShards_le
  obtain ⟨-, hindex⟩ := ShardId.tableIndex?_eq_some_iff.mp hi
  exact (ShardId.toInt_ofIndex (by omega)).trans hindex

theorem materialize_eq_of_tableIndex? {b : Binder α} (hb : b.Sound) {s t : ShardId}
    (hs : s.addresses b.query.numShards = true) (h : t.tableIndex? = s.tableIndex?) :
    b.materialize t = b.materialize s := by
  obtain ⟨statement, hst⟩ := exists_materialize hb hs
  obtain ⟨index, prepared, hi, hprepared⟩ := materialize_eq_ok_iff.mp hst
  rw [hst, materialize_eq_ok_iff]
  exact ⟨index, prepared, h.trans hi, hprepared⟩

/-! ## Statements for routes -/

theorem exists_route_shard {b : Binder α} (h : b.query.numShards = 1 ∨ b.pinned ≠ none) :
    ∃ shard, b.route = .shard shard := by
  rcases b.route_cases with ⟨-, hr⟩ | ⟨-, shard, -, hr⟩ | ⟨h1, hp, -⟩ | ⟨h1, hp, -⟩
  · exact ⟨_, hr⟩
  · exact ⟨_, hr⟩
  · exact absurd hp (h.resolve_left h1)
  · exact absurd hp (h.resolve_left h1)

/-- The statement that is shown is that of the shard that is known beforehand. -/
theorem boundStatement_eq {b : Binder α} (hb : b.Sound) {shard : ShardId}
    (hr : b.route = .shard shard) : b.boundStatement = b.materialize shard := by
  rcases b.route_cases with ⟨h1, h⟩ | ⟨-, pin, hp, h⟩ | ⟨-, -, -, h⟩ | ⟨-, -, -, h⟩
  · rw [h] at hr
    cases hr
    -- an id that addresses the only table may be the absence of rotation
    have hpin : (b.pinned.getD .noRotation).tableIndex? = ShardId.first.tableIndex? := by
      cases hp : b.pinned with
      | none => rfl
      | some pin =>
        obtain ⟨index, hi, hlt⟩ := ShardId.addresses_iff.mp (hb.pinned_addresses pin hp)
        rw [h1, Nat.lt_one_iff] at hlt
        rw [Option.getD_some, hi, hlt]
        rfl
    exact materialize_eq_of_tableIndex? hb (addresses_of_route hb h) hpin
  · rw [h] at hr
    cases hr
    rw [boundStatement, hp, Option.getD_some]
  · rw [h] at hr
    cases hr
  · rw [h] at hr
    cases hr

theorem plan_shard_eq {b : Binder α} {shard : ShardId} (hr : b.route = .shard shard) (mode : Mode)
    (state : Except QueryError RotationState) :
    b.plan mode state = (b.materialize shard).map (.single shard) := by
  unfold plan
  rw [hr]

end Binder

/-! ## Executions -/

/-- An execution for a shard that is known beforehand sends the statement for it and no other,
    in every mode. -/
theorem Client.sent_of_route_shard [Backend σ] (c : Client σ α) {b : Binder α} {shard : ShardId}
    (hr : b.route = .shard shard) {statement : BoundStatement}
    (h : b.materialize shard = .ok statement) (mode : Mode) :
    (c.execute b mode).2.engine.connection.sent = c.engine.connection.sent ++ [statement] := by
  have hplan : b.plan mode (b.query.source.stateAt (c.now b.query)) =
      .ok (.single shard statement) := by
    rw [Binder.plan_shard_eq hr, h]
    rfl
  rw [(c.execute_eq_serve b mode).2, hplan]
  show List.map Exchange.statement _ = _
  rw [(c.engine.serve_single b.query mode shard statement).2, List.map_append,
    map_statement_trace]
  rfl

/-! ## Built queries -/

namespace Definition

theorem reflects_of_build {d : Definition α} {q : Query α} (h : d.build = .ok q) {b : Binder α}
    {id : Nat} {calls : List Binder.Call} (hb : (Binder.fresh id q).after calls = b) :
    b.Sound ∧ b.Reflects q ((Binder.fresh id q).admitted calls) := by
  have hq := build_sound h
  subst hb
  exact ⟨(Binder.sound_after (Binder.sound_fresh hq id) calls).2,
    Binder.reflects_after (Binder.reflects_fresh hq id) calls⟩

/-- Whatever calls are made on a binder of a query that was built, it holds what they have set.
    It has a statement for the absence of rotation and for each table, and for no other id;
    the statement names the table, has its text and carries just what the binder holds. With a
    single table or a pin the statement that the binder shows is the only one that its
    executions send, in each mode. -/
theorem previewed_of_build [Backend σ] {d : Definition α} {q : Query α} (h : d.build = .ok q)
    {b : Binder α} {id : Nat} {calls : List Binder.Call}
    (hb : (Binder.fresh id q).after calls = b) :
    b.Reflects q ((Binder.fresh id q).admitted calls) ∧
    (∀ shard : ShardId,
      ((∃ statement, b.materialize shard = .ok statement) ↔
        -1 ≤ shard.raw.toInt ∧ shard.raw.toInt < q.numShards) ∧
      (∀ statement, b.materialize shard = .ok statement →
        b.Carries statement ∧ statement.shard.raw.toInt = max shard.raw.toInt 0) ∧
      ∀ e, b.materialize shard = .error e →
        e = .configuration (.noStatementFor shard q.numShards)) ∧
    (q.numShards = 1 ∨ b.pinned ≠ none → ∃ statement, b.boundStatement = .ok statement ∧
      ∀ (mode : Mode) (c : Client σ α),
        (c.execute b mode).2.engine.connection.sent =
          c.engine.connection.sent ++ [statement]) := by
  obtain ⟨hsound, hreflects⟩ := reflects_of_build h hb
  obtain rfl := hreflects.query
  refine ⟨hreflects, fun shard => ⟨Binder.exists_materialize_iff hsound,
    fun statement => Binder.carries_of_materialize hsound,
    fun e => Binder.materialize_eq_error hsound⟩, fun hknown => ?_⟩
  obtain ⟨shard, hr⟩ := Binder.exists_route_shard hknown
  obtain ⟨statement, hst⟩ := Binder.exists_materialize hsound (Binder.addresses_of_route hsound hr)
  refine ⟨statement, (Binder.boundStatement_eq hsound hr).trans hst, fun mode c => ?_⟩
  exact c.sent_of_route_shard hr hst mode

/-- A read of events by key from one of three tables. -/
def eventsOfKey : Definition (List Value) :=
  { newestEvent with
    slots := ["key"]
    statements := some [⟨"SELECT * FROM events_0 WHERE key = ?", 1⟩,
      ⟨"SELECT * FROM events_1 WHERE key = ?", 1⟩, ⟨"SELECT * FROM events_2 WHERE key = ?", 1⟩] }

/-- The read is pinned to the absence of rotation before it is executed, and refuses another
    level after that. -/
def unrotated : List Binder.Call :=
  [.adjust (.bindNamed "key" (.text "a")), .adjust (.pin .noRotation),
    .adjust (.serial .localSerial), .execute .one, .adjust (.consistency .quorum)]

/-- A read without rotation shows and sends the statement of the first table. -/
theorem previewed_of_build_unrotated :
    ∃ q b statement, eventsOfKey.build = .ok q ∧ (Binder.fresh 0 q).after unrotated = b ∧
      b.boundStatement = .ok statement ∧ statement.shard.raw.toInt = 0 ∧
      statement.values = [.text "a"] ∧ statement.consistency = none ∧
      statement.serial = some .localSerial ∧
      (∀ mode, (thirdHour.execute b mode).2.engine.connection.sent = [statement]) ∧
      ∀ statement, b.materialize ⟨3⟩ ≠ .ok statement := by
  obtain ⟨hreflects, hmaterialize, hshown⟩ := previewed_of_build (σ := ScriptedStore)
    (d := eventsOfKey) rfl (b := (Binder.fresh 0 _).after unrotated) rfl
  obtain ⟨statement, hstatement, hsent⟩ := hshown (Or.inr (by decide))
  obtain ⟨-, hcarries, -⟩ := hmaterialize .noRotation
  obtain ⟨hcarries, hshard⟩ := hcarries statement hstatement
  refine ⟨_, _, statement, rfl, rfl, hstatement, hshard, hcarries.values, hcarries.consistency,
    hcarries.serial, fun mode => hsent mode thirdHour, fun other hother => ?_⟩
  have hrange := (hmaterialize ⟨3⟩).1.mp ⟨other, hother⟩
  exact absurd hrange (by decide)

end Definition

end RotatedShards
