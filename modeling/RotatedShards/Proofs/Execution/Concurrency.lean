import Mathlib.Algebra.Order.BigOperators.Group.List
import Mathlib.Algebra.Order.Group.Nat
import RotatedShards.Proofs.Execution.Accounts

/-!
# Concurrency

How many statements are in flight at once. In every run the statements in flight are those whose
responses some task still awaits. Where each execution is waited for before the next one starts,
a gathering has all its statements in flight at once and a walk has one at a time, so that the
most there have ever been is the most that one of the executions asks for.

Results:
* `Client.balanced_run`: what is in flight, in every run.
* `Engine.Settling.start`, `Engine.Settling.wait`: what an execution adds to the peak.
* `Client.settling_run`: the peak where each execution is waited for.
* `Client.concurrency`: both, for a store that starts afresh.
-/

namespace RotatedShards

variable {σ α : Type}

/-! ## Statements in flight -/

namespace Task

/-- How many responses a task awaits. A walk awaits one at a time. -/
def awaited : Task α → Nat
  | .queued work => work.responses.length
  | .running _ due => due.length
  | .asking .. => 1
  | _ => 0

theorem awaited_ofResponse (work : Gathering α) (rest : List BoundStatement) :
    (ofResponse work rest).awaited = 0 := by
  unfold ofResponse
  split <;> rfl

@[simp]
theorem awaited_taken : (taken : Task α).awaited = 0 := rfl

theorem awaited_begin (now : Nat) (task : Task α) : (task.begin now).awaited = task.awaited := by
  cases task with
  | queued work => exact List.length_map _
  | _ => rfl

theorem landed_add_awaited_pass (time : Nat) (task : Task α) :
    task.landed time + (task.pass time).awaited = task.awaited := by
  cases task with
  | running work due =>
    have hcount := List.length_eq_countP_add_countP (· ≤ time) (l := due)
    simp only [pass, landed]
    split_ifs with hall
    · have hdue : due.countP (· ≤ time) = due.length :=
        List.countP_eq_length.mpr (List.all_eq_true.mp hall)
      simp only [awaited, hdue, Nat.add_zero]
    · simp only [awaited, hcount, ← List.countP_eq_length_filter]
      simp
  | asking work due rest =>
    simp only [pass, landed]
    split_ifs
    · rw [awaited_ofResponse]
      rfl
    · rfl
  | _ => exact Nat.zero_add _

theorem sum_landed_add_awaited (time : Nat) (tasks : List (Task α)) :
    (tasks.map (landed time)).foldl (· + ·) 0 + ((tasks.map (pass time)).map awaited).sum =
      (tasks.map awaited).sum := by
  rw [← List.sum_eq_foldl]
  induction tasks with
  | nil => rfl
  | cons task rest ih =>
    have hhead := task.landed_add_awaited_pass time
    simp only [List.map_cons, List.sum_cons]
    omega

end Task

namespace Engine

/-- How many responses the tasks await. -/
def awaited (e : Engine σ α) : Nat := (e.tasks.map Task.awaited).sum

/-- The statements in flight are those whose responses are awaited, and there have been as many
    at once. -/
structure Balanced (e : Engine σ α) : Prop where
  inFlight_eq : e.connection.inFlight = e.awaited
  inFlight_le : e.connection.inFlight ≤ e.connection.peak

theorem awaited_put {e : Engine σ α} {t : Nat} {task : Task α} (htask : e.tasks[t]? = some task)
    (new : Task α) : (e.put t new).awaited + task.awaited = e.awaited + new.awaited := by
  have hset (tasks : List (Task α)) (i : Nat) (hi : tasks[i]? = some task) :
      ((tasks.set i new).map Task.awaited).sum + task.awaited =
        (tasks.map Task.awaited).sum + new.awaited := by
    induction tasks generalizing i with
    | nil => cases hi
    | cons first rest ih =>
      cases i with
      | zero =>
        cases hi
        simp only [List.set_cons_zero, List.map_cons, List.sum_cons]
        omega
      | succ i =>
        have hrest := ih i hi
        simp only [List.set_cons_succ, List.map_cons, List.sum_cons]
        omega
  exact hset e.tasks t htask

namespace Balanced

variable {e : Engine σ α}

theorem begin (h : e.Balanced) : e.begin.Balanced := by
  have hawaited : e.begin.awaited = e.awaited := by
    simp only [awaited, Engine.begin, List.map_map]
    exact congrArg List.sum (List.map_congr_left fun task _ => task.awaited_begin e.time)
  exact ⟨h.inFlight_eq.trans hawaited.symm, h.inFlight_le⟩

theorem advance (h : e.Balanced) (time : Nat) : (e.advance time).Balanced := by
  have hlanded := Task.sum_landed_add_awaited time e.tasks
  have hbefore : e.connection.inFlight = (e.tasks.map Task.awaited).sum := h.inFlight_eq
  constructor
  · show e.connection.inFlight - _ = ((e.tasks.map (Task.pass time)).map Task.awaited).sum
    omega
  · exact (Nat.sub_le _ _).trans h.inFlight_le

theorem put (h : e.Balanced) {t : Nat} {task new : Task α} (htask : e.tasks[t]? = some task)
    (hold : task.awaited = 0) (hnew : new.awaited = 0) : (e.put t new).Balanced := by
  have hawaited := awaited_put htask new
  have hbefore := h.inFlight_eq
  refine ⟨?_, h.inFlight_le⟩
  show e.connection.inFlight = _
  omega

theorem enqueue (h : e.Balanced) {task : Task α} (htask : task.awaited = 0) :
    (e.enqueue task).Balanced := by
  have hadd : ((e.tasks ++ [task]).map Task.awaited).sum = (e.tasks.map Task.awaited).sum := by
    simp [htask]
  exact ⟨h.inFlight_eq.trans hadd.symm, h.inFlight_le⟩

variable [Backend σ]

/-- A walk that proceeds awaits the response to the statement that it sends. -/
theorem proceed (h : e.Balanced) (t : Nat) : (e.proceed t).Balanced := by
  unfold Engine.proceed
  split
  · rename_i mapper statement rest htask
    have hawaited := awaited_put (e := (e.send statement).2) htask
      (.asking (.ofStep mapper (e.send statement).1)
        ((e.send statement).2.time + (e.send statement).1.delay) rest)
    have hbefore := h.inFlight_eq
    refine ⟨?_, le_max_right _ _⟩
    show e.connection.inFlight + 1 = _
    exact (congrArg (· + 1) hbefore).trans hawaited.symm
  · rename_i mapper htask
    exact h.put htask rfl rfl
  · exact h

theorem turn (h : e.Balanced) (t : Nat) : (e.turn t).Balanced :=
  turn_induct t h (fun _ h => h.begin) (fun _ time h => h.advance time) fun _ h => h.proceed t

/-- What is in flight stays balanced when a task is waited for. -/
theorem wait (h : e.Balanced) (t : Nat) : (e.wait t).2.Balanced := by
  have hturns := turns_induct t h (fun _ h => h.turn t) (e.turnsLeft t)
  unfold Engine.wait collect
  split
  · rename_i error htask
    exact hturns.put htask rfl rfl
  · rename_i result htask
    exact hturns.put htask rfl rfl
  · exact hturns

end Balanced

variable [Backend σ]

theorem inFlight_sendAll (e : Engine σ α) (statements : List BoundStatement) :
    (e.sendAll statements).2.connection.inFlight = e.connection.inFlight + statements.length := by
  induction statements generalizing e with
  | nil => rfl
  | cons statement rest ih =>
    have hsend : (e.send statement).2.connection.inFlight = e.connection.inFlight + 1 := rfl
    rw [sendAll, ih, hsend, List.length_cons]
    omega

theorem peak_sendAll {e : Engine σ α} (h : e.connection.inFlight ≤ e.connection.peak)
    (statements : List BoundStatement) :
    (e.sendAll statements).2.connection.peak =
      max e.connection.peak (e.connection.inFlight + statements.length) := by
  induction statements generalizing e with
  | nil => exact (max_eq_left h).symm
  | cons statement rest ih =>
    have hpeak : (e.send statement).2.connection.peak =
        max e.connection.peak (e.connection.inFlight + 1) := rfl
    have hsend : (e.send statement).2.connection.inFlight = e.connection.inFlight + 1 := rfl
    rw [sendAll, ih (le_max_right _ _), hpeak, hsend, List.length_cons]
    omega

namespace Balanced

variable {e : Engine σ α}

/-- A gathering that is started awaits the responses to the statements that are sent for it. -/
theorem start (h : e.Balanced) (q : Query α) (mode : Mode) (plan : Except QueryError Plan) :
    (e.start q mode plan).Balanced := by
  cases plan with
  | error error => exact h.enqueue rfl
  | ok plan =>
    have haccept : (e.accept q.text plan).Balanced := ⟨h.inFlight_eq, h.inFlight_le⟩
    cases hwalks : q.walks mode plan with
    | true =>
      rw [start_of_walks e q mode plan hwalks]
      exact haccept.enqueue rfl
    | false =>
      have htasks := ((e.accept q.text plan).sendAll_spec plan.statements).2.2
      have hresponses : (e.gathering q mode plan).responses.length = plan.statements.length := by
        rw [gathering, List.length_map, ← List.length_map Exchange.statement, map_statement_trace]
      have hawaited (e' : Engine σ α) (h' : e'.tasks = e.tasks) :
          (e'.enqueue (.queued (e.gathering q mode plan))).awaited =
            e.awaited + plan.statements.length := by
        simp only [awaited, Engine.enqueue, h', List.map_append, List.sum_append, List.map_cons,
          List.map_nil, List.sum_cons, List.sum_nil, Task.awaited, hresponses, Nat.add_zero]
      rw [start_of_not_walks e q mode plan hwalks]
      have hinFlight := inFlight_sendAll (e.accept q.text plan) plan.statements
      refine ⟨?_, ?_⟩
      · rw [hawaited _ htasks]
        exact hinFlight.trans (congrArg (· + plan.statements.length) haccept.inFlight_eq)
      · show ((e.accept q.text plan).sendAll plan.statements).2.connection.inFlight ≤
          ((e.accept q.text plan).sendAll plan.statements).2.connection.peak
        rw [hinFlight, peak_sendAll haccept.inFlight_le]
        exact le_max_right _ _

theorem call (h : e.Balanced) (q : Query α) (plan : Except QueryError Plan) :
    (e.call q plan).2.Balanced := by
  cases plan with
  | error error => exact h
  | ok plan =>
    simp only [Engine.call]
    split
    · exact ⟨h.inFlight_eq, h.inFlight_le⟩
    · split <;> exact ⟨h.inFlight_eq, h.inFlight_le⟩

theorem serve (h : e.Balanced) (q : Query α) (mode : Mode) (plan : Except QueryError Plan) :
    (e.serve q mode plan).2.Balanced := by
  unfold Engine.serve
  split_ifs
  · exact h.call q plan
  · exact (h.start q mode plan).wait e.tasks.length

end Balanced

end Engine

/-! ## Peaks -/

namespace Task

/-- How many statements a task is still to have in flight at once: a walk sends one after the
    other. -/
def ahead : Task α → Nat
  | .walking _ (_ :: _) => 1
  | _ => 0

theorem ahead_le_one (task : Task α) : task.ahead ≤ 1 := by
  unfold ahead
  split
  · exact le_rfl
  · exact Nat.zero_le 1

theorem ahead_begin (now : Nat) (task : Task α) : (task.begin now).ahead = task.ahead := by
  cases task <;> rfl

/-- A walk that goes on has no more to send at once than it has in flight. -/
theorem max_ahead_pass {task : Task α} {peak : Nat} (h : task.awaited ≤ peak) (time : Nat) :
    max peak (task.pass time).ahead = max peak task.ahead := by
  cases task with
  | running work due =>
    rw [pass]
    split_ifs <;> rfl
  | asking work due rest =>
    have hpeak : 1 ≤ peak := h
    have hpass := ((asking work due rest).pass time).ahead_le_one
    have hasking := (asking work due rest).ahead_le_one
    omega
  | _ => rfl

end Task

/-- How many statements an execution is to have in flight at once, given its plan or why there
    is none. -/
def Query.overlap (q : Query α) (mode : Mode) : Except QueryError Plan → Nat
  | .error _ => 0
  | .ok (.single ..) => 1
  | .ok (.fanOut shards _) =>
    if mode = .one ∧ q.options.firstPresent = .sequential then 1 else shards.length

namespace Engine

/-- Every task has been waited for. -/
def Idle (e : Engine σ α) : Prop := ∀ task ∈ e.tasks, task = .taken

variable {e : Engine σ α} {n peak : Nat} {task : Task α}

theorem idle_iff : e.Idle ↔ ∃ n, e.tasks = List.replicate n .taken := by
  constructor
  · intro h
    exact ⟨e.tasks.length, List.eq_replicate_iff.mpr ⟨rfl, h⟩⟩
  · rintro ⟨n, hn⟩ task htask
    rw [hn] at htask
    exact List.eq_of_mem_replicate htask

theorem Balanced.inFlight_eq_zero (h : e.Balanced) (hidle : e.Idle) :
    e.connection.inFlight = 0 := by
  obtain ⟨n, hn⟩ := idle_iff.mp hidle
  rw [h.inFlight_eq, awaited, hn]
  simp

/-- Every task has been waited for, or every one but the last. By the time that the last one is
    waited for, `peak` is the most that there has been in flight. -/
inductive Settling (e : Engine σ α) (peak : Nat) : Prop
  | idle (hidle : e.Idle) (hpeak : e.connection.peak = peak)
  | last {n : Nat} {task : Task α} (htasks : e.tasks = List.replicate n .taken ++ [task])
      (hpeak : max e.connection.peak task.ahead = peak)

/-- It is enough that tasks only go on, and that the last one has no more to send at once than
    there has been in flight. -/
theorem Settling.of_map {e' : Engine σ α} (h : e.Settling peak) {f : Task α → Task α}
    (htasks : e'.tasks = e.tasks.map f) (hpeak : e'.connection.peak = e.connection.peak)
    (htaken : f .taken = .taken) (hahead : ∀ task ∈ e.tasks,
      max e.connection.peak (f task).ahead = max e.connection.peak task.ahead) :
    e'.Settling peak := by
  cases h with
  | idle hidle hp =>
    refine .idle (fun task htask => ?_) (hpeak.trans hp)
    rw [htasks] at htask
    obtain ⟨before, hbefore, rfl⟩ := List.mem_map.mp htask
    rw [hidle before hbefore, htaken]
  | @last n task hlast hp =>
    have hlast' : e'.tasks = List.replicate n .taken ++ [f task] := by
      rw [htasks, hlast, List.map_append, List.map_replicate, htaken]
      rfl
    refine .last hlast' ?_
    rw [hpeak, hahead task (hlast ▸ List.mem_append_right _ List.mem_cons_self), hp]

theorem Settling.congr {e' : Engine σ α} (h : e.Settling peak) (htasks : e'.tasks = e.tasks)
    (hpeak : e'.connection.peak = e.connection.peak) : e'.Settling peak :=
  h.of_map (htasks.trans (List.map_id _).symm) hpeak rfl fun _ _ => rfl

theorem Settling.peak_eq (h : e.Settling peak) (hidle : e.Idle) : e.connection.peak = peak := by
  cases h with
  | idle _ hpeak => exact hpeak
  | last htasks hpeak =>
    rename_i n task
    have htask : task = .taken := hidle task (htasks ▸ List.mem_append_right _ List.mem_cons_self)
    rw [← hpeak, htask]
    exact (Nat.max_zero _).symm

/-! ### Turns -/

theorem put_last (h : e.tasks = List.replicate n .taken ++ [task]) (new : Task α) :
    (e.put n new).tasks = List.replicate n .taken ++ [new] := by
  rw [put, h, List.set_append_right _ _ (by simp), List.length_replicate, Nat.sub_self,
    List.set_cons_zero]

theorem eq_of_tasks_last (h : e.tasks = List.replicate n .taken ++ [task]) {t : Nat}
    {task' : Task α} (ht : e.tasks[t]? = some task') :
    task' = .taken ∨ t = n ∧ task' = task := by
  rw [h, List.getElem?_append, List.length_replicate] at ht
  split_ifs at ht with hlt
  · exact .inl (List.eq_of_mem_replicate (List.mem_of_getElem? ht))
  · obtain ⟨hzero, rfl⟩ := List.getElem?_eq_some_iff.mp ht
    rw [List.length_singleton] at hzero
    exact .inr ⟨by omega, by simp [Nat.lt_one_iff.mp hzero]⟩

section Backend

variable [Backend σ]

namespace Settling

omit [Backend σ] in
theorem advance (h : e.Settling peak) (hbalanced : e.Balanced) (time : Nat) :
    (e.advance time).Settling peak := by
  refine h.of_map rfl rfl rfl fun task htask => Task.max_ahead_pass ?_ time
  refine le_trans ?_ hbalanced.inFlight_le
  rw [hbalanced.inFlight_eq]
  exact List.le_sum_of_mem (List.mem_map_of_mem htask)

theorem proceed (h : e.Settling peak) (hbalanced : e.Balanced) (t : Nat) :
    (e.proceed t).Settling peak := by
  unfold Engine.proceed
  split
  · rename_i mapper statement rest htask
    cases h with
    | idle hidle _ => cases hidle _ (List.mem_of_getElem? htask)
    | last htasks hpeak =>
      obtain ⟨⟨⟩⟩ | ⟨rfl, rfl⟩ := eq_of_tasks_last htasks htask
      have hinFlight : e.connection.inFlight = 0 := by
        rw [hbalanced.inFlight_eq, awaited, htasks]
        simp [Task.awaited]
      refine .last (put_last (e := (e.send statement).2) htasks _) ?_
      show max (max e.connection.peak (e.connection.inFlight + 1)) 0 = peak
      rw [hinFlight]
      exact (Nat.max_zero _).trans hpeak
  · rename_i mapper htask
    cases h with
    | idle hidle _ => cases hidle _ (List.mem_of_getElem? htask)
    | last htasks hpeak =>
      obtain ⟨⟨⟩⟩ | ⟨rfl, rfl⟩ := eq_of_tasks_last htasks htask
      exact .last (put_last htasks _) hpeak
  · exact h

theorem turn (h : e.Settling peak) (hbalanced : e.Balanced) (t : Nat) :
    (e.turn t).Settling peak := by
  refine (turn_induct (motive := fun e => e.Settling peak ∧ e.Balanced) t ⟨h, hbalanced⟩
    (fun e h => ?_) (fun e time h => ?_) fun e h => ?_).1
  · exact ⟨h.1.of_map rfl rfl rfl fun task _ => by rw [task.ahead_begin], h.2.begin⟩
  · exact ⟨h.1.advance h.2 time, h.2.advance time⟩
  · exact ⟨h.1.proceed h.2 t, h.2.proceed t⟩

omit [Backend σ] in
theorem collect (h : e.Settling peak) {t : Nat} (hleft : e.turnsLeft t = 0) :
    (e.collect t).2.Settling peak ∧ (t + 1 = e.tasks.length → (e.collect t).2.Idle) := by
  have hsame (ht : ∀ task, e.tasks[t]? = some task → task = .taken) : (e.collect t).2 = e := by
    unfold Engine.collect
    split
    · cases ht _ ‹_›
    · cases ht _ ‹_›
    · rfl
  cases h with
  | idle hidle hpeak =>
    rw [hsame fun task ht => hidle task (List.mem_of_getElem? ht)]
    exact ⟨.idle hidle hpeak, fun _ => hidle⟩
  | @last n task htasks hpeak =>
    have hlength : e.tasks.length = n + 1 := by
      rw [htasks]
      simp
    by_cases htn : t = n
    · subst htn
      have htask : e.tasks[t]? = some task := by
        rw [htasks, List.getElem?_append_right (by simp)]
        simp
      rw [turnsLeft_of_some htask] at hleft
      have hcollect : (e.collect t).2.tasks = List.replicate (t + 1) .taken ∧
          (e.collect t).2.connection.peak = max e.connection.peak task.ahead := by
        have htake : (e.take t).tasks = List.replicate (t + 1) .taken :=
          (put_last htasks .taken).trans List.replicate_succ'.symm
        simp only [Engine.collect, htask]
        cases task with
        | rejected error => exact ⟨htake, (Nat.max_zero _).symm⟩
        | settled result => exact ⟨htake, (Nat.max_zero _).symm⟩
        | taken => exact ⟨htasks.trans List.replicate_succ'.symm, (Nat.max_zero _).symm⟩
        | queued work => cases hleft
        | running work due => cases hleft
        | walking mapper statements => cases hleft
        | asking work due rest => cases hleft
      have hidle : (e.collect t).2.Idle := idle_iff.mpr ⟨_, hcollect.1⟩
      exact ⟨.idle hidle (hcollect.2.trans hpeak), fun _ => hidle⟩
    · rw [hsame fun task' ht => (eq_of_tasks_last htasks ht).resolve_right fun h => htn h.1]
      exact ⟨.last htasks hpeak, fun heq => absurd (Nat.succ.inj (heq.trans hlength)) htn⟩

/-- Whatever is waited for, the peak will be the same. Once it is the last task, every task has
    been waited for. -/
theorem wait (h : e.Settling peak) (hbalanced : e.Balanced) (t : Nat) :
    (e.wait t).2.Settling peak ∧ (t + 1 = e.tasks.length → (e.wait t).2.Idle) := by
  obtain ⟨hturns, -, hlength⟩ := turns_induct
    (motive := fun e' => e'.Settling peak ∧ e'.Balanced ∧ e'.tasks.length = e.tasks.length) t
    ⟨h, hbalanced, rfl⟩
    (fun e' h => ⟨h.1.turn h.2.1 t, h.2.1.turn t,
      (Grows.turn (P := fun _ => True) e' t fun _ _ => trivial).length_tasks.trans h.2.2⟩)
    (e.turnsLeft t)
  have hcollect := hturns.collect (turnsLeft_turns (e := e) (t := t) le_rfl)
  rw [hlength] at hcollect
  exact hcollect

/-- An execution that is started where every task has been waited for is to have as many
    statements in flight as its plan asks for. -/
theorem start (hbalanced : e.Balanced) (hidle : e.Idle) (q : Query α) (mode : Mode)
    {plan : Except QueryError Plan} (hplan : ∀ shards statements,
      plan = .ok (.fanOut shards statements) → statements.length = shards.length ∧ shards ≠ []) :
    (e.start q mode plan).Settling (max e.connection.peak (q.overlap mode plan)) := by
  obtain ⟨n, hn⟩ := idle_iff.mp hidle
  cases plan with
  | error error => exact .last (congrArg (· ++ [_]) hn) rfl
  | ok plan =>
    cases hwalks : q.walks mode plan with
    | true =>
      cases plan with
      | single shard statement => cases hwalks
      | fanOut shards statements =>
        obtain ⟨hlength, hne⟩ := hplan shards statements rfl
        have hseq : mode = .one ∧ q.options.firstPresent = .sequential := by
          simpa [Query.walks] using hwalks
        rw [start_of_walks e q mode _ hwalks, Query.overlap, if_pos hseq]
        cases statements with
        | nil => exact absurd (List.length_eq_zero_iff.mp hlength.symm) hne
        | cons statement rest => exact .last (congrArg (· ++ [_]) hn) rfl
    | false =>
      have hoverlap : q.overlap mode (.ok plan) = plan.statements.length := by
        cases plan with
        | single shard statement => rfl
        | fanOut shards statements =>
          have hpar : ¬(mode = .one ∧ q.options.firstPresent = .sequential) := by
            simpa [Query.walks] using hwalks
          rw [Query.overlap, if_neg hpar]
          exact (hplan shards statements rfl).1.symm
      have haccept : (e.accept q.text plan).connection.inFlight = 0 :=
        hbalanced.inFlight_eq_zero hidle
      have htasks := ((e.accept q.text plan).sendAll_spec plan.statements).2.2
      rw [start_of_not_walks e q mode plan hwalks, hoverlap]
      have hpeak := peak_sendAll (haccept ▸ Nat.zero_le _) plan.statements
      rw [haccept, Nat.zero_add] at hpeak
      refine .last (congrArg (· ++ [_]) (htasks.trans hn)) ?_
      exact (Nat.max_zero _).trans hpeak

/-- An execution is waited for, at once on the calling thread, where nothing is in flight for it,
    or apart from it. -/
theorem serve (hbalanced : e.Balanced) (hidle : e.Idle) (q : Query α) (mode : Mode)
    {plan : Except QueryError Plan} (hplan : ∀ shards statements,
      plan = .ok (.fanOut shards statements) → statements.length = shards.length ∧ shards ≠ []) :
    (e.serve q mode plan).2.Settling
        (max e.connection.peak (if mode = .sync then 0 else q.overlap mode plan)) ∧
      (e.serve q mode plan).2.Idle := by
  unfold Engine.serve
  split_ifs
  · have hcall : (e.call q plan).2.tasks = e.tasks ∧
        (e.call q plan).2.connection.peak = e.connection.peak := by
      cases plan with
      | error error => exact ⟨rfl, rfl⟩
      | ok plan =>
        simp only [call]
        split
        · exact ⟨rfl, rfl⟩
        · split <;> exact ⟨rfl, rfl⟩
    have hidle' : (e.call q plan).2.Idle := by
      rw [Idle, hcall.1]
      exact hidle
    exact ⟨.idle hidle' (hcall.2.trans (Nat.max_zero _).symm), hidle'⟩
  · have hlength : (e.start q mode plan).tasks.length = e.tasks.length + 1 :=
      (Grows.start (P := fun _ => True) e q mode fun _ _ _ _ => trivial).length_tasks
    have hstart := Settling.start hbalanced hidle q mode hplan
    obtain ⟨hsettling, hlast⟩ := hstart.wait (hbalanced.start q mode plan) e.tasks.length
    exact ⟨hsettling, hlast hlength.symm⟩

end Settling

end Backend

end Engine

/-! ## Runs -/

theorem Binder.length_of_plan {b : Binder α} {mode : Mode} {state : Except QueryError RotationState}
    {shards : List ShardId} {statements : List BoundStatement}
    (h : b.plan mode state = .ok (.fanOut shards statements)) :
    statements.length = shards.length ∧ shards ≠ [] := by
  cases planned_of_plan h with
  | @window s _ _ _ _ _ hres hst =>
    obtain ⟨n, -, hpos, rfl⟩ := Resolver.plan_eq_ok hres
    refine ⟨(mapM_eq_ok_iff.mp hst).length_eq.symm, ?_⟩
    rw [Ne, List.take_eq_nil_iff, not_or]
    exact ⟨by omega, s.ordered_ne_nil⟩

namespace Client

/-- How many statements the execution that a command asks for is to have in flight at once, if
    its binder has been opened. On the calling thread none is. -/
def overlap? (c : Client σ α) : Command σ α → Option Nat
  | .execute k mode => c.binders[k]?.map fun b =>
      if mode = .sync then 0 else b.query.overlap mode (c.planned b mode)
  | .start k mode => c.binders[k]?.map fun b => b.query.overlap mode (c.planned b mode)
  | _ => none

variable [Backend σ]

/-- What the executions that commands ask for are to have in flight at once. -/
def overlaps (c : Client σ α) : List (Command σ α) → List Nat
  | [] => []
  | command :: rest => (c.overlap? command).toList ++ overlaps (c.step command).2 rest

/-- Each execution is asked for when those before it have been waited for. -/
def Paced (c : Client σ α) (commands : List (Command σ α)) : Prop :=
  ∀ before command after, commands = before ++ command :: after →
    command.executed? ≠ none → (c.run before).2.engine.Idle

theorem paced_cons {c : Client σ α} {command : Command σ α} {rest : List (Command σ α)} :
    c.Paced (command :: rest) ↔
      (command.executed? ≠ none → c.engine.Idle) ∧ (c.step command).2.Paced rest := by
  constructor
  · intro h
    refine ⟨h [] command rest rfl, ?_⟩
    rintro before next after rfl
    exact h (command :: before) next after rfl
  · rintro ⟨hhead, hrest⟩ before next after h
    cases before with
    | nil =>
      obtain ⟨rfl, rfl⟩ := List.cons.inj h
      exact hhead
    | cons first before =>
      obtain ⟨rfl, rfl⟩ := List.cons.inj h
      exact hrest before next after rfl

/-- In every run the statements in flight are those whose responses are awaited. -/
theorem balanced_step {c : Client σ α} (h : c.engine.Balanced) (command : Command σ α) :
    (c.step command).2.engine.Balanced := by
  rw [step_engine]
  cases command with
  | execute k mode =>
    dsimp only
    split
    · exact h.serve _ mode _
    · exact h
  | start k mode =>
    dsimp only
    split
    · exact h.start _ mode _
    · exact h
  | wait task => exact h.wait task
  | turn task => exact h.turn task
  | alterStore change => exact ⟨h.inFlight_eq, h.inFlight_le⟩
  | takeLog => exact ⟨h.inFlight_eq, h.inFlight_le⟩
  | _ => exact h

theorem balanced_run {c : Client σ α} (h : c.engine.Balanced) (commands : List (Command σ α)) :
    (c.run commands).2.engine.Balanced := by
  induction commands generalizing c with
  | nil => exact h
  | cons command rest ih => exact ih (balanced_step h command)

/-- Where each execution is waited for, a command adds to the peak what it asks for. -/
theorem settling_step {c : Client σ α} (hbalanced : c.engine.Balanced) {peak : Nat}
    (h : c.engine.Settling peak) {command : Command σ α}
    (hidle : command.executed? ≠ none → c.engine.Idle) :
    (c.step command).2.engine.Settling ((c.overlap? command).toList.foldl max peak) := by
  rw [step_engine]
  cases command with
  | execute k mode =>
    have hidle := hidle (by simp [Command.executed?])
    simp only [overlap?]
    cases c.binders[k]? with
    | none => exact h
    | some b =>
      rw [← h.peak_eq hidle]
      exact (Engine.Settling.serve hbalanced hidle b.query mode fun _ _ => Binder.length_of_plan).1
  | start k mode =>
    have hidle := hidle (by simp [Command.executed?])
    simp only [overlap?]
    cases c.binders[k]? with
    | none => exact h
    | some b =>
      rw [← h.peak_eq hidle]
      exact .start hbalanced hidle b.query mode fun _ _ => Binder.length_of_plan
  | wait task => exact (h.wait hbalanced task).1
  | turn task => exact h.turn hbalanced task
  | alterStore change => exact h.congr rfl rfl
  | takeLog => exact h.congr rfl rfl
  | _ => exact h

/-- Where each execution is waited for before the next one starts, the peak is the most that one
    of them asks for. -/
theorem settling_run {c : Client σ α} (hbalanced : c.engine.Balanced) {peak : Nat}
    (h : c.engine.Settling peak) {commands : List (Command σ α)} (hpaced : c.Paced commands) :
    (c.run commands).2.engine.Settling ((c.overlaps commands).foldl max peak) := by
  induction commands generalizing c peak with
  | nil => exact h
  | cons command rest ih =>
    obtain ⟨hidle, hrest⟩ := paced_cons.mp hpaced
    rw [overlaps, List.foldl_append]
    exact ih (balanced_step hbalanced command) (settling_step hbalanced h hidle) hrest

/-- Once a command has executed a binder at once, or has waited for the last task, every task
    has been waited for. -/
theorem idle_step {c : Client σ α} (hbalanced : c.engine.Balanced) {peak : Nat}
    (h : c.engine.Settling peak) {command : Command σ α}
    (hidle : command.executed? ≠ none → c.engine.Idle)
    (hwaits : (∃ k mode, command = .execute k mode) ∨
      ∃ t, command = .wait t ∧ t + 1 = c.engine.tasks.length) :
    (c.step command).2.engine.Idle := by
  rw [step_engine]
  rcases hwaits with ⟨k, mode, rfl⟩ | ⟨t, rfl, ht⟩
  · have hidle := hidle (by simp [Command.executed?])
    dsimp only
    cases c.binders[k]? with
    | none => exact hidle
    | some b =>
      exact (Engine.Settling.serve hbalanced hidle b.query mode fun _ _ => Binder.length_of_plan).2
  · exact (h.wait hbalanced t).2 ht

/-- A store that starts afresh, whatever is in its tables, whichever of them fail and however late
    they answer. Where each execution is waited for before the next one starts, the most statements
    that there have been in flight at once are the most that one of the executions asks for: all of
    a gathering, one of a walk or for a single shard, and none on the calling thread or without a
    plan. Nothing is left in flight by an execution that has been waited for. -/
theorem concurrency (store : MemoryStore) (systemClock : Instant)
    (commands : List (Command MemoryStore α)) :
    let start : Client MemoryStore α := .fresh store systemClock
    start.Paced commands →
    ((start.run commands).2.engine.Idle →
      (start.run commands).2.engine.connection.peak = (start.overlaps commands).foldl max 0) ∧
    ∀ before command after, commands = before ++ command :: after →
      let c := (start.run before).2
      ((∃ k mode, command = .execute k mode) ∨
        ∃ t, command = .wait t ∧ t + 1 = c.engine.tasks.length) →
      (c.step command).2.engine.Idle ∧ (c.step command).2.engine.connection.inFlight = 0 := by
  intro start hpaced
  have hbalanced : start.engine.Balanced := ⟨rfl, Nat.zero_le 0⟩
  have hsettling : start.engine.Settling 0 := .idle (by rintro task ⟨⟩) rfl
  constructor
  · intro hidle
    exact (settling_run hbalanced hsettling hpaced).peak_eq hidle
  · rintro before command after rfl c hwaits
    have hbefore : start.Paced before := by
      rintro first next rest rfl
      exact hpaced first next (rest ++ command :: after) (by simp)
    have hidle := idle_step (balanced_run hbalanced before)
      (settling_run hbalanced hsettling hbefore) (hpaced before command after rfl) hwaits
    exact ⟨hidle, (balanced_step (balanced_run hbalanced before) command).inFlight_eq_zero hidle⟩

/-- A read for the first event fails on its way. All events are then read from tables that answer
    late, and a read on the calling thread is refused. -/
def failing : List (Command MemoryStore Event) :=
  [.openBinder Ledger.keyRead, .alterStore (·.fail 1 "table lost"),
    .alterStore (·.setLatency 2 40), .execute 0 .one, .start 0 .all, .wait 1, .execute 0 .sync]

theorem paced_failing : (fresh twoHours (.ofMillis 10000000)).Paced failing := by
  have hother {c : Client MemoryStore Event} {command : Command MemoryStore Event} {rest}
      (h : command.executed? = none) (hrest : (c.step command).2.Paced rest) :
      c.Paced (command :: rest) := paced_cons.mpr ⟨fun hne => absurd h hne, hrest⟩
  refine hother rfl (hother rfl (hother rfl ?_))
  refine paced_cons.mpr ⟨fun _ => Engine.idle_iff.mpr ⟨0, rfl⟩, ?_⟩
  refine paced_cons.mpr ⟨fun _ => Engine.idle_iff.mpr ⟨1, rfl⟩, hother rfl ?_⟩
  refine paced_cons.mpr ⟨fun _ => Engine.idle_iff.mpr ⟨2, rfl⟩, ?_⟩
  rintro before command after h
  simp at h

/-- The walk had one statement in flight at a time, and the gathering three at once. -/
theorem concurrency_failing :
    ((fresh twoHours (.ofMillis 10000000)).run failing).2.engine.connection.peak = 3 ∧
      ((fresh twoHours (.ofMillis 10000000)).run failing).2.engine.connection.inFlight = 0 := by
  obtain ⟨hpeak, hwaited⟩ := concurrency twoHours (.ofMillis 10000000) failing paced_failing
  refine ⟨(hpeak (Engine.idle_iff.mpr ⟨2, rfl⟩)).trans rfl, ?_⟩
  exact (hwaited (failing.take 6) (.execute 0 .sync) [] rfl (.inl ⟨0, .sync, rfl⟩)).2

end Client

end RotatedShards
