import RotatedShards.Proofs.Execution.Outlook

/-!
# Turns

A turn of a walk takes it one shard further; every other turn only lets time pass, which
the outlook of an engine anticipates. A walk that gets all its turns comes to what a read of
the shards in order comes to, whatever happens between them, and it makes no difference
whether they are taken while its result is waited for or before.

Results:
* `Engine.outlook_turn`: what a turn does to the outlook of an engine.
* `Engine.turnsLeft_turns`: every task comes to an end.
* `Engine.outlook_wait`, `Engine.outlook_serve`: what waiting and executing do to the
  outlook.
* `Engine.start_wait_of_walks`, `Engine.serve_fanOut`: the result of a walk and of an
  execution for several shards, and the exchanges that they add.
-/

namespace RotatedShards

variable {σ α : Type} [Backend σ]

/-! ## Turns of an outlook -/

namespace Outlook

/-- A turn of a task: if it is a walk, it goes one shard further. -/
def turn (o : Outlook σ α) (task : Nat) : Outlook σ α :=
  match o.promises[task]? with
  | some (.walk mapper (statement :: rest)) =>
    let work := Gathering.ofStep mapper (Backend.answer statement o.store).1
    ((o.issue [statement]).count work.settle).put task (.ofResponse work rest)
  | some (.walk _ []) => o.put task (.result (.ok (.item none)))
  | _ => o

/-- Several turns of a task. -/
def turns (o : Outlook σ α) (task : Nat) : Nat → Outlook σ α
  | 0 => o
  | count + 1 => (o.turn task).turns task count

/-- To wait for a task comes to the same after it has had a turn. -/
theorem wait_turn (o : Outlook σ α) (t : Nat) : (o.turn t).wait t = o.wait t := by
  cases hp : o.promises[t]? with
  | none => simp only [turn, hp]
  | some p =>
    have hlt : t < o.promises.length := (List.getElem?_eq_some_iff.mp hp).1
    cases p with
    | taken => simp only [turn, hp]
    | result result => simp only [turn, hp]
    | walk mapper statements =>
      rw [wait_of_walk hp]
      cases statements with
      | nil =>
        have hissue : o.issue (visited mapper o.store []) = o := o.issue_nil
        have hturn : o.turn t = o.put t (.result (.ok (.item none))) := by simp only [turn, hp]
        rw [hturn, wait_put_result hlt, hissue, count_none o rfl rfl]
        rfl
      | cons statement rest =>
        have hturn : o.turn t =
            ((o.issue [statement]).count
              (Gathering.ofStep mapper (Exchange.on o.store statement).response).settle).put t
                (.ofResponse (.ofStep mapper (Exchange.on o.store statement).response) rest) := by
          simp only [turn, hp]
          rfl
        rw [hturn, visited_cons, walked_cons]
        cases hdecides : (Exchange.on o.store statement).decides mapper with
        | true =>
          rw [Promise.ofResponse_of_decides hdecides, wait_put_result, if_pos rfl, if_pos rfl,
            Gathering.settle_ofStep]
          exact hlt
        | false =>
          -- the response counts nothing, and the rest of the walk finds the store after it
          have hcount := (o.issue [statement]).count_none
            (s := (Gathering.ofStep mapper (Exchange.on o.store statement).response).settle)
            (by rw [Gathering.settle_ofStep, Exchange.fails_of_not_decides hdecides]; rfl)
            (by rw [Gathering.settle_ofStep])
          have hissue := o.issue_append [statement]
            (visited mapper (Backend.answer statement o.store).2 rest)
          rw [List.singleton_append] at hissue
          rw [Promise.ofResponse_of_not_decides hdecides, hcount, wait_put_walk,
            if_neg Bool.false_ne_true, if_neg Bool.false_ne_true, hissue]
          · rfl
          · exact hlt

theorem wait_turns (o : Outlook σ α) (t count : Nat) : (o.turns t count).wait t = o.wait t := by
  induction count generalizing o with
  | zero => rfl
  | succ count ih => rw [turns, ih, wait_turn]

end Outlook

/-! ## Turns of an engine -/

namespace Engine

/-- A task without work of its own that can proceed is a walk, which issues the next
    statement if there is one. -/
theorem outlook_proceed {e : Engine σ α} {t : Nat} {task : Task α}
    (htask : e.tasks[t]? = some task) (hdone : task.work? = none) :
    (e.proceed t).outlook = e.outlook.turn t := by
  have hpromise : e.outlook.promises[t]? = some task.promise := by
    rw [outlook, List.getElem?_map, htask]
    rfl
  simp only [proceed, Outlook.turn, htask, hpromise]
  cases task with
  | queued work => cases hdone
  | running work due => cases hdone
  | asking work due rest => cases hdone
  | rejected error => rfl
  | settled result => rfl
  | taken => rfl
  | walking mapper statements =>
    cases statements with
    | nil => exact outlook_put htask rfl rfl
    | cons statement rest =>
      have hsend : (e.send statement).2.outlook = e.outlook.issue [statement] := rfl
      have hput := outlook_put_asking (e := (e.send statement).2) htask rfl
        (.ofStep mapper (e.send statement).1)
        ((e.send statement).2.time + (e.send statement).1.delay) rest
      rw [hsend] at hput
      exact hput

omit [Backend σ] in
theorem work?_answered (task : Task α) : task.answered.work? = none := by
  cases task with
  | asking work due rest => exact Task.work?_ofResponse work rest
  | _ => rfl

/-- A turn of a walk goes one shard further. Any other turn is anticipated. -/
theorem outlook_turn (e : Engine σ α) (t : Nat) : (e.turn t).outlook = e.outlook.turn t := by
  cases htask : e.tasks[t]? with
  | none =>
    have hpromise : e.outlook.promises[t]? = none := by
      rw [outlook, List.getElem?_map, htask]
      rfl
    simp only [turn, Outlook.turn, htask, hpromise]
  | some task =>
    obtain ⟨hturn, hlater⟩ := turn_of_some htask
    rw [hturn, outlook_proceed hlater (work?_answered task), outlook_advance, outlook_begin]

theorem outlook_turns (e : Engine σ α) (t count : Nat) :
    (e.turns t count).outlook = e.outlook.turns t count := by
  induction count generalizing e with
  | zero => rfl
  | succ count ih => rw [turns, ih, outlook_turn, Outlook.turns]

/-! ## Waiting -/

omit [Backend σ] in
theorem turnsLeft_of_some {e : Engine σ α} {t : Nat} {task : Task α}
    (htask : e.tasks[t]? = some task) : e.turnsLeft t = task.turnsLeft := by
  rw [turnsLeft, htask]
  rfl

theorem turnsLeft_proceed {e : Engine σ α} {t : Nat} {task : Task α}
    (htask : e.tasks[t]? = some task) (hdone : task.work? = none) :
    (e.proceed t).turnsLeft t = task.turnsLeft - 1 := by
  have hlt : t < e.tasks.length := (List.getElem?_eq_some_iff.mp htask).1
  have hput (e' : Engine σ α) (hlength : e'.tasks.length = e.tasks.length) (new : Task α) :
      (e'.put t new).turnsLeft t = new.turnsLeft := by
    refine turnsLeft_of_some ?_
    rw [put, List.getElem?_set_self (by omega)]
  simp only [proceed, htask]
  cases task with
  | queued work => cases hdone
  | running work due => cases hdone
  | asking work due rest => cases hdone
  | rejected error => exact turnsLeft_of_some htask
  | settled result => exact turnsLeft_of_some htask
  | taken => exact turnsLeft_of_some htask
  | walking mapper statements =>
    cases statements with
    | nil => exact hput e rfl _
    | cons statement rest => exact hput (e.send statement).2 rfl _

omit [Backend σ] in
theorem turnsLeft_answered (task : Task α) : task.answered.turnsLeft ≤ task.turnsLeft := by
  cases task with
  | asking work due rest =>
    rw [Task.answered, Task.ofResponse]
    split
    · exact le_rfl
    · exact Nat.zero_le _
  | queued work => exact Nat.zero_le _
  | running work due => exact Nat.zero_le _
  | _ => exact le_rfl

theorem turnsLeft_turn (e : Engine σ α) (t : Nat) : (e.turn t).turnsLeft t ≤ e.turnsLeft t - 1 := by
  cases htask : e.tasks[t]? with
  | none =>
    have hturn : e.turn t = e := by simp only [turn, htask]
    rw [hturn, turnsLeft, htask]
    exact Nat.zero_le _
  | some task =>
    obtain ⟨hturn, hlater⟩ := turn_of_some htask
    rw [hturn, turnsLeft_proceed hlater (work?_answered task), turnsLeft_of_some htask]
    exact Nat.sub_le_sub_right (turnsLeft_answered task) 1

/-- After as many turns as a task takes at most, none is left. -/
theorem turnsLeft_turns {e : Engine σ α} {t count : Nat} (h : e.turnsLeft t ≤ count) :
    (e.turns t count).turnsLeft t = 0 := by
  induction count generalizing e with
  | zero => exact Nat.le_zero.mp h
  | succ count ih =>
    have hturn := e.turnsLeft_turn t
    exact ih (by omega)

theorem outlook_collect {e : Engine σ α} {t : Nat} (h : e.turnsLeft t = 0) :
    (e.collect t).1 = (e.outlook.wait t).1 ∧ (e.collect t).2.outlook = (e.outlook.wait t).2 := by
  have hpromise : e.outlook.promises[t]? = e.tasks[t]?.map Task.promise := List.getElem?_map
  unfold collect Outlook.wait
  rw [hpromise]
  cases htask : e.tasks[t]? with
  | none => exact ⟨rfl, rfl⟩
  | some task =>
    rw [turnsLeft_of_some htask] at h
    cases task with
    | taken => exact ⟨rfl, rfl⟩
    | rejected error => exact ⟨rfl, outlook_put htask rfl rfl⟩
    | settled result => exact ⟨rfl, outlook_put htask rfl rfl⟩
    | queued work => cases h
    | running work due => cases h
    | asking work due rest => cases h
    | walking mapper statements => cases h

/-- Waiting hands over what was promised, or goes through the shards. -/
theorem outlook_wait (e : Engine σ α) (t : Nat) :
    (e.wait t).1 = (e.outlook.wait t).1 ∧ (e.wait t).2.outlook = (e.outlook.wait t).2 := by
  have hcollect := outlook_collect (turnsLeft_turns (e := e) (t := t) le_rfl)
  rw [outlook_turns, Outlook.wait_turns] at hcollect
  exact hcollect

/-- An execution is served with the result that it promises. -/
theorem outlook_serve (e : Engine σ α) (q : Query α) (mode : Mode)
    (plan : Except QueryError Plan) :
    (e.serve q mode plan).1 = (e.outlook.serve q mode plan).1 ∧
      (e.serve q mode plan).2.outlook = (e.outlook.serve q mode plan).2 := by
  have hlength : e.outlook.promises.length = e.tasks.length := List.length_map _
  unfold serve Outlook.serve
  split_ifs
  · exact e.outlook_call q plan
  · rw [hlength, ← outlook_start]
    exact outlook_wait _ _

/-! ## Executions -/

/-- A plan that is walked has the first object that the answers of the store yield, and
    adds the exchanges up to the first one that decides it. -/
theorem start_wait_of_walks (e : Engine σ α) (q : Query α) (mode : Mode) (plan : Plan)
    (hwalks : q.walks mode plan = true) :
    ((e.start q mode (.ok plan)).wait e.tasks.length).1 =
        (Exchange.firstRead q.mapper (trace e.connection.store plan.statements)).map .item ∧
      ((e.start q mode (.ok plan)).wait e.tasks.length).2.connection.exchanges =
        e.connection.exchanges ++
          Exchange.untilDecided q.mapper (trace e.connection.store plan.statements) := by
  have hlength : e.outlook.promises.length = e.tasks.length := List.length_map _
  have hpromise : (e.outlook.start q mode (.ok plan)).promises[e.tasks.length]? =
      some (.walk q.mapper plan.statements) := by
    rw [e.outlook.start_of_walks hwalks, ← hlength]
    exact List.getElem?_concat_length
  have hwait := outlook_wait (e.start q mode (.ok plan)) e.tasks.length
  rw [outlook_start, Outlook.wait, hpromise, e.outlook.start_of_walks hwalks] at hwait
  refine ⟨hwait.1, (congrArg Outlook.exchanges hwait.2).trans ?_⟩
  show e.connection.exchanges ++
    trace e.connection.store (visited q.mapper e.connection.store plan.statements) = _
  rw [trace_visited]

/-- An execution for several shards adds the exchanges with all of them, or those up to
    the first one that decides it. -/
theorem serve_fanOut (e : Engine σ α) (q : Query α) {mode : Mode} (hm : mode.merges = true)
    (shards : List ShardId) (statements : List BoundStatement) :
    (e.serve q mode (.ok (.fanOut shards statements))).1 =
        (if q.walks mode (.fanOut shards statements) then
          (Exchange.firstRead q.mapper (trace e.connection.store statements)).map .item
        else (e.gathering q mode (.fanOut shards statements)).settle.result) ∧
      (e.serve q mode (.ok (.fanOut shards statements))).2.connection.exchanges =
        e.connection.exchanges ++
          (if q.walks mode (.fanOut shards statements) then
            Exchange.untilDecided q.mapper (trace e.connection.store statements)
          else trace e.connection.store statements) := by
  have hasync : mode ≠ .sync := by
    rintro rfl
    cases hm
  rw [serve, if_neg hasync]
  cases hwalks : q.walks mode (.fanOut shards statements) with
  | true => exact e.start_wait_of_walks q mode _ hwalks
  | false => exact e.start_wait_of_not_walks q mode _ hwalks

end Engine

end RotatedShards
