import RotatedShards.Execution.Plan
import RotatedShards.Proofs.Except
import RotatedShards.Proofs.Rotation.Window

/-!
# Built queries and their binders

What building a query sees to, and what therefore holds of each of its binders,
whatever calls are made on it.

Results:
* `Definition.build_eq_ok`: what building checks.
* `Definition.build_sound`: the query of a definition is sound.
* `Binder.adjust_of_executed`, `Binder.adjust_eq_ok_iff`: when a change is refused, and what
  it does if it is admitted.
* `Binder.sound_after`: the binders of a sound query are sound after any calls.
* `Binder.after_fresh`: calls have the same effect for queries that are alike.
-/

namespace RotatedShards

variable {α : Type}

/-! ## Sources -/

namespace RotationSource

/-- The sources that report one state, and those that go by the clock of a valid
    configuration. -/
inductive FixedOrClock : RotationSource → Prop
  | fixed (state : RotationState) : FixedOrClock (.fixed state)
  | clock {c : RotationConfig} {source : RotationSource} (h : clock? c = .ok source) :
      FixedOrClock source

/-- Such a source gives states with as many shards as it reports, or fails since a
    time does not fit. -/
theorem FixedOrClock.stateAt_cases {source : RotationSource} (h : source.FixedOrClock)
    (now : Instant) :
    (∃ s, source.stateAt now = .ok s ∧ s.numShards = source.numShards) ∨
      source.stateAt now = .error (.configuration .timeDoesNotFit) := by
  cases h with
  | fixed state => exact Or.inl ⟨state, rfl, rfl⟩
  | clock h =>
    obtain ⟨hc, rfl⟩ := clock?_eq_ok_iff.mp h
    rcases RotationConfig.stateAt_cases hc now with ⟨-, s, hs, hstate⟩ | ⟨-, he⟩
    · exact Or.inl ⟨s, hs, hstate.numShards_eq⟩
    · exact Or.inr he

end RotationSource

/-! ## Built queries -/

/-- What building a query sees to: there is a table for each shard of its source, each
    statement takes a value for every slot, a pin addresses a table, and reads that may
    span shards have a valid policy. -/
structure Query.Sound (q : Query α) : Prop where
  numShards_pos : 0 < q.numShards
  numShards_le : q.numShards ≤ 2147483647
  source_numShards : q.source.numShards = q.numShards
  length_statements : q.statements.length = q.numShards
  params_eq : ∀ p ∈ q.statements, p.params = q.slots.length
  pinned_addresses : ∀ s, q.options.pinned = some s → s.addresses q.numShards = true
  validate_eq_ok : q.options.pinned = none → 1 < q.numShards → q.upsert = false →
    q.policy.validate = .ok ()

theorem Query.Sound.numShards_eq {q : Query α} (hq : q.Sound) (hsource : q.source.FixedOrClock)
    {now : Instant} {s : RotationState} (hs : q.source.stateAt now = .ok s) :
    s.numShards = q.numShards := by
  rcases hsource.stateAt_cases now with ⟨s', hs', hn⟩ | he
  · rw [hs] at hs'
    cases hs'
    exact hn.trans hq.source_numShards
  · rw [hs] at he
    cases he

namespace Definition

theorem checkStatements_eq_ok {d : Definition α} {count : Nat}
    {statements : List PreparedStatement} (h : d.checkStatements count = .ok statements) :
    d.statements = some statements ∧ statements.length = count ∧
      ∀ p ∈ statements, p.params = d.slots.length := by
  unfold checkStatements at h
  split at h
  · cases h
  · rename_i hstatements
    split_ifs at h with hlen
    split at h
    · cases h
    · rename_i hfind
      cases h
      refine ⟨hstatements, Decidable.not_not.mp hlen, fun p hp => ?_⟩
      have := List.findIdx?_eq_none_iff.mp hfind p hp
      simpa using this

theorem checkShard_eq_ok {shard : ShardId} {count : Nat} (h : checkShard shard count = .ok ()) :
    shard.addresses count = true := by
  unfold checkShard at h
  split_ifs at h with hs
  exact hs

/-- What building checks, and the query that results. -/
theorem build_eq_ok {d : Definition α} {q : Query α} (h : d.build = .ok q) :
    ∃ source statements, d.rotation.fault? = none ∧ d.sourceOrClock = .ok source ∧
      source.numShards = d.rotation.numShards.toNat ∧
      d.checkStatements d.rotation.numShards.toNat = .ok statements ∧
      (∀ s, d.options.pinned = some s → s.addresses d.rotation.numShards.toNat = true) ∧
      (d.options.pinned = none → 1 < d.rotation.numShards.toNat → d.upsert = false →
        d.policy.validate = .ok ()) ∧
      q = { text := d.text, slots := d.slots, statements, upsert := d.upsert, mapper := d.mapper
            source, supplied := d.source.isSome, numShards := d.rotation.numShards.toNat
            resolver := ⟨d.rotation.clockSkewMargin⟩, policy := d.policy
            options := d.options } := by
  unfold build at h
  cases hf : d.rotation.fault? with
  | some fault => simp [hf] at h
  | none =>
    simp only [hf] at h
    obtain ⟨source, hsource, h⟩ := bind_eq_ok_iff.mp h
    by_cases hcount : source.numShards = d.rotation.numShards.toNat
    · rw [if_neg (not_not_intro hcount)] at h
      obtain ⟨statements, hstatements, h⟩ := bind_eq_ok_iff.mp h
      refine ⟨source, statements, rfl, hsource, hcount, hstatements, ?_⟩
      cases hp : d.options.pinned with
      | some shard =>
        rw [hp] at h
        obtain ⟨u, hshard, h⟩ := bind_eq_ok_iff.mp h
        cases h
        refine ⟨?_, by simp, rfl⟩
        rintro s ⟨⟩
        exact checkShard_eq_ok hshard
      | none =>
        rw [hp] at h
        split_ifs at h with hspan
        · obtain ⟨u, hv, h⟩ := bind_eq_ok_iff.mp h
          cases h
          exact ⟨by simp, fun _ _ _ => hv, rfl⟩
        · cases h
          exact ⟨by simp, fun _ h1 h2 => absurd ⟨h1, h2⟩ hspan, rfl⟩
    · rw [if_pos hcount] at h
      cases h

/-- The query of a definition is sound. -/
theorem build_sound {d : Definition α} {q : Query α} (h : d.build = .ok q) : q.Sound := by
  obtain ⟨source, statements, hf, -, hcount, hst, hpin, hv, rfl⟩ := build_eq_ok h
  obtain ⟨hpos, hmax, -, -⟩ := RotationConfig.fault?_eq_none_iff.mp hf
  obtain ⟨-, hlen, hparams⟩ := checkStatements_eq_ok hst
  exact ⟨hpos, hmax, hcount, hlen, hparams, hpin, hv⟩

theorem build_source {d : Definition α} {q : Query α} (h : d.build = .ok q)
    (hd : ∀ source, d.source = some source → source.FixedOrClock) : q.source.FixedOrClock := by
  obtain ⟨source, statements, hf, hsource, -, -, -, -, rfl⟩ := build_eq_ok h
  unfold sourceOrClock at hsource
  cases hs : d.source with
  | some source' =>
    simp only [hs] at hsource
    cases hsource
    exact hd _ hs
  | none =>
    simp only [hs] at hsource
    exact .clock hsource

end Definition

/-! ## Binders -/

namespace Binder

/-- A call on a binder: a change, or an execution in some mode. -/
inductive Call
  | adjust (change : Adjustment)
  | execute (mode : Mode)

/-- The binder after a call. A change that is refused leaves it as it is, and an
    execution freezes it. -/
def call (b : Binder α) : Call → Binder α
  | .adjust change =>
    match b.adjust change with
    | .ok b' => b'
    | .error _ => b
  | .execute _ => b.freeze

/-- The binder after a series of calls. -/
def after (b : Binder α) (calls : List Call) : Binder α := calls.foldl call b

/-- What holds of each binder of a sound query: it has a value for every slot, its pin
    addresses a table, and it has lost no pin of the query. -/
structure Sound (b : Binder α) : Prop where
  query_sound : b.query.Sound
  length_values : b.values.length = b.query.slots.length
  pinned_addresses : ∀ s, b.pinned = some s → s.addresses b.query.numShards = true
  pinned_eq_none : b.pinned = none → b.query.options.pinned = none

/-- What a change that is admitted makes of a binder. -/
inductive Admits (b : Binder α) : Adjustment → Binder α → Prop
  | bind {slot : Nat} (value : Value) (hslot : slot < b.values.length) :
      Admits b (.bind slot value) { b with values := b.values.set slot value }
  | bindNamed {name : String} {slot : Nat} (value : Value)
      (hname : b.query.slots.idxOf? name = some slot) (hslot : slot < b.values.length) :
      Admits b (.bindNamed name value) { b with values := b.values.set slot value }
  | consistency (level : Consistency) :
      Admits b (.consistency level) { b with consistency := some level }
  | serial {level : Consistency} (hlevel : level.isSerial = true) :
      Admits b (.serial level) { b with serial := some level }
  | pin {shard : ShardId} (hshard : shard.addresses b.query.numShards = true) :
      Admits b (.pin shard) { b with pinned := some shard }

theorem Admits.executed_eq {b b' : Binder α} {change : Adjustment} (h : b.Admits change b') :
    b'.executed = b.executed := by
  cases h <;> rfl

theorem ensureMutable_bind {β : Type} (b : Binder α) (f : Unit → Except QueryError β) :
    b.ensureMutable >>= f = if b.executed then .error .alreadyExecuted else f () := by
  unfold ensureMutable
  split_ifs <;> rfl

/-- A binder that has been executed refuses every change, for that reason alone. -/
theorem adjust_of_executed {b : Binder α} (h : b.executed = true) (change : Adjustment) :
    b.adjust change = .error .alreadyExecuted := by
  cases change <;> exact (b.ensureMutable_bind _).trans (if_pos h)

theorem bind_slot_eq_ok_iff {b b' : Binder α} {slot : Nat} {value : Value} :
    b.bind slot value = .ok b' ↔ b.executed = false ∧ slot < b.values.length ∧
      b' = { b with values := b.values.set slot value } := by
  rw [bind, ensureMutable_bind]
  split_ifs with hexecuted hslot
  · simp [hexecuted]
  · simp [hexecuted, hslot, eq_comm]
  · simp [hslot]

/-- A binder admits a change unless it has been executed, and then does just that. -/
theorem adjust_eq_ok_iff {b b' : Binder α} {change : Adjustment} :
    b.adjust change = .ok b' ↔ b.executed = false ∧ b.Admits change b' := by
  cases hexecuted : b.executed with
  | true =>
    rw [adjust_of_executed hexecuted]
    constructor
    · rintro ⟨⟩
    · rintro ⟨⟨⟩, -⟩
  | false =>
    have hcheck {β : Type} (f : Unit → Except QueryError β) : b.ensureMutable >>= f = f () :=
      (b.ensureMutable_bind f).trans (if_neg (by rw [hexecuted]; exact Bool.false_ne_true))
    refine Iff.trans ?_ (and_iff_right rfl).symm
    constructor
    · intro h
      cases change with
      | bind slot value =>
        obtain ⟨-, hslot, rfl⟩ := bind_slot_eq_ok_iff.mp h
        exact .bind value hslot
      | bindNamed name value =>
        rw [adjust, bindNamed, hcheck] at h
        split at h
        · rename_i slot hname
          obtain ⟨-, hslot, rfl⟩ := bind_slot_eq_ok_iff.mp h
          exact .bindNamed value hname hslot
        · cases h
      | consistency level =>
        rw [adjust, setConsistency, hcheck] at h
        cases h
        exact .consistency level
      | serial level =>
        rw [adjust, setSerial, hcheck] at h
        split_ifs at h with hlevel
        cases h
        exact .serial hlevel
      | pin shard =>
        rw [adjust, pin, hcheck] at h
        obtain ⟨_, hshard, rfl⟩ := map_eq_ok_iff.mp h
        exact .pin (Definition.checkShard_eq_ok hshard)
    · intro h
      cases h with
      | bind value hslot => exact bind_slot_eq_ok_iff.mpr ⟨hexecuted, hslot, rfl⟩
      | bindNamed value hname hslot =>
        have hindex : b.query.slotIndex? _ = _ := hname
        rw [adjust, bindNamed, hcheck, hindex]
        exact bind_slot_eq_ok_iff.mpr ⟨hexecuted, hslot, rfl⟩
      | consistency level => exact hcheck _
      | serial hlevel => exact (hcheck _).trans (if_pos hlevel)
      | pin hshard =>
        refine (hcheck _).trans ?_
        rw [checkShard, if_pos hshard]
        rfl

theorem sound_fresh {q : Query α} (hq : q.Sound) (id : Nat) : (fresh id q).Sound :=
  ⟨hq, List.length_replicate, hq.pinned_addresses, fun h => h⟩

@[simp] theorem query_call (b : Binder α) (c : Call) : (b.call c).query = b.query := by
  cases c with
  | execute mode => rfl
  | adjust change =>
    simp only [call]
    cases h : b.adjust change with
    | error e => rfl
    | ok b' => cases (adjust_eq_ok_iff.mp h).2 <;> rfl

theorem sound_call {b : Binder α} (hb : b.Sound) (c : Call) : (b.call c).Sound := by
  obtain ⟨hq, hlen, hpin, hnone⟩ := hb
  cases c with
  | execute mode => exact ⟨hq, hlen, hpin, hnone⟩
  | adjust change =>
    simp only [call]
    cases h : b.adjust change with
    | error e => exact ⟨hq, hlen, hpin, hnone⟩
    | ok b' =>
      cases (adjust_eq_ok_iff.mp h).2 with
      | bind value hslot => exact ⟨hq, List.length_set.trans hlen, hpin, hnone⟩
      | bindNamed value hname hslot => exact ⟨hq, List.length_set.trans hlen, hpin, hnone⟩
      | consistency level => exact ⟨hq, hlen, hpin, hnone⟩
      | serial hlevel => exact ⟨hq, hlen, hpin, hnone⟩
      | pin hshard =>
        refine ⟨hq, hlen, ?_, by simp⟩
        rintro s ⟨⟩
        exact hshard

/-- The binders of a sound query are sound after any calls. -/
theorem sound_after {b : Binder α} (hb : b.Sound) (calls : List Call) :
    (b.after calls).query = b.query ∧ (b.after calls).Sound := by
  induction calls generalizing b with
  | nil => exact ⟨rfl, hb⟩
  | cons c rest ih =>
    obtain ⟨hquery, hsound⟩ := ih (sound_call hb c)
    exact ⟨hquery.trans (b.query_call c), hsound⟩

end Binder

/-! ## Queries that are alike -/

/-- The queries differ in nothing but where they read the state of the rotation and how
    they resolve it. -/
structure Query.Alike (q q' : Query α) : Prop where
  text : q'.text = q.text
  slots : q'.slots = q.slots
  statements : q'.statements = q.statements
  upsert : q'.upsert = q.upsert
  mapper : q'.mapper = q.mapper
  numShards : q'.numShards = q.numShards
  firstPresent : q'.options.firstPresent = q.options.firstPresent
  pinned : q'.options.pinned = q.options.pinned

namespace Binder

variable {b : Binder α} {q' : Query α}

/-- The same bindings of another query, as the binder with a given number. -/
def onto (b : Binder α) (id : Nat) (q' : Query α) : Binder α := { b with id, query := q' }

theorem adjust_onto (h : b.query.Alike q') (id : Nat) (change : Adjustment) :
    (b.onto id q').adjust change = (b.adjust change).map (onto · id q') := by
  have hbind (slot : Nat) (value : Value) :
      (b.onto id q').bind slot value = (b.bind slot value).map (onto · id q') := by
    rw [bind, bind, ensureMutable_bind, ensureMutable_bind]
    show (if b.executed then _ else if slot < b.values.length then _ else _) = _
    split_ifs <;> rfl
  cases change with
  | bind slot value => exact hbind slot value
  | bindNamed name value =>
    have hslot : (b.onto id q').query.slotIndex? name = b.query.slotIndex? name :=
      congrArg (List.idxOf? name) h.slots
    rw [adjust, adjust, bindNamed, bindNamed, ensureMutable_bind, ensureMutable_bind, hslot]
    show (if b.executed then _ else _) = _
    split_ifs
    · rfl
    · cases b.query.slotIndex? name with
      | none => rfl
      | some slot => exact hbind slot value
  | consistency level =>
    rw [adjust, adjust, setConsistency, setConsistency, ensureMutable_bind, ensureMutable_bind]
    show (if b.executed then _ else _) = _
    split_ifs <;> rfl
  | serial level =>
    rw [adjust, adjust, setSerial, setSerial, ensureMutable_bind, ensureMutable_bind]
    show (if b.executed then _ else if level.isSerial then _ else _) = _
    split_ifs <;> rfl
  | pin shard =>
    rw [adjust, adjust, pin, pin, ensureMutable_bind, ensureMutable_bind]
    show (if b.executed then _ else (checkShard shard q'.numShards).map _) = _
    rw [h.numShards]
    split_ifs
    · rfl
    · cases checkShard shard b.query.numShards <;> rfl

theorem call_onto (h : b.query.Alike q') (id : Nat) (c : Call) :
    (b.onto id q').call c = (b.call c).onto id q' := by
  cases c with
  | execute mode => rfl
  | adjust change =>
    simp only [call, adjust_onto h]
    cases b.adjust change <;> rfl

theorem after_onto (h : b.query.Alike q') (id : Nat) (calls : List Call) :
    (b.onto id q').after calls = (b.after calls).onto id q' := by
  induction calls generalizing b with
  | nil => rfl
  | cons c rest ih =>
    show ((b.onto id q').call c).after rest = ((b.call c).after rest).onto id q'
    rw [call_onto h, ih (by rwa [query_call])]

theorem after_fresh {q : Query α} (h : q.Alike q') (id id' : Nat) (calls : List Call) :
    (fresh id' q').after calls = ((fresh id q).after calls).onto id' q' := by
  have hfresh : fresh id' q' = (fresh id q).onto id' q' := by
    simp only [fresh, onto, h.slots, h.pinned]
  rw [hfresh, after_onto h]

end Binder

end RotatedShards
