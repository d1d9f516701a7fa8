import RotatedShards.Proofs.Execution.Exchanges

/-!
# Counters

What one execution adds to the counts of failures and of reads that found too many objects.
While a result is waited for, gatherings that were started before may be settled too, and
are counted as well: the counters grow by what these contribute and by what the gathering
of the execution itself does, in whatever order they are settled.

Results:
* `Engine.stats_advance`: what the passing of time adds to the counters.
* `Engine.background_eq_nil`: nothing is settled on the side where nothing is outstanding.
* `Engine.start_wait_counts`, `Client.execute_gathers`: what an execution adds.
-/

namespace RotatedShards

variable {σ α : Type}

namespace Gathering

/-- The failures that are counted when gatherings are settled. -/
def failuresOf : List (Gathering α) → Nat
  | [] => 0
  | g :: gs => failuresOf gs + g.settle.failures

/-- The reads for at most one object among gatherings that found several. -/
def violationsOf (gs : List (Gathering α)) : Nat := gs.countP fun g => g.settle.surplus.isSome

theorem failuresOf_perm {gs hs : List (Gathering α)} (h : gs.Perm hs) :
    failuresOf gs = failuresOf hs := by
  induction h with
  | nil => rfl
  | cons g _ ih => rw [failuresOf, failuresOf, ih]
  | swap g g' gs =>
    simp only [failuresOf]
    omega
  | trans _ _ ih ih' => exact ih.trans ih'

theorem violationsOf_perm {gs hs : List (Gathering α)} (h : gs.Perm hs) :
    violationsOf gs = violationsOf hs :=
  h.countP_eq _

theorem violationsOf_cons (g : Gathering α) (gs : List (Gathering α)) :
    violationsOf (g :: gs) = violationsOf gs + if g.settle.surplus.isSome then 1 else 0 :=
  List.countP_cons

end Gathering

namespace Task

/-- A task waits for responses, which come in while something else is waited for. -/
def isOutstanding : Task α → Bool
  | .queued _ | .running .. | .asking .. => true
  | _ => false

theorem isOutstanding_begin (now : Nat) (task : Task α) :
    (task.begin now).isOutstanding = task.isOutstanding := by
  cases task <;> rfl

theorem settledBy?_eq_none {task : Task α} (h : task.isOutstanding = false) (time : Nat) :
    task.settledBy? time = none := by
  cases task with
  | running work due => cases h
  | asking work due rest => cases h
  | queued work => cases h
  | rejected error => rfl
  | walking mapper statements => rfl
  | settled result => rfl
  | taken => rfl

end Task

namespace Engine

/-! ## Passing time -/

theorem stats_foldl_record (gs : List (Gathering α)) (e : Engine σ α) :
    (gs.foldl record e).stats =
      { e.stats with
        failures := e.stats.failures + Gathering.failuresOf gs
        violations := e.stats.violations + Gathering.violationsOf gs } := by
  induction gs generalizing e with
  | nil => rfl
  | cons g rest ih =>
    rw [List.foldl_cons, ih, Gathering.failuresOf, Gathering.violationsOf_cons]
    simp only [record, Statistics.countSettlement, Nat.add_assoc, Nat.add_comm, Nat.add_left_comm]

theorem stats_advance (e : Engine σ α) (time : Nat) :
    (e.advance time).stats =
      { e.stats with
        failures := e.stats.failures + Gathering.failuresOf (e.settledBy time)
        violations := e.stats.violations + Gathering.violationsOf (e.settledBy time) } :=
  stats_foldl_record (e.settledBy time) e

/-- The gatherings started so far that are settled by a given time, if something is waited
    for until then. -/
def background (e : Engine σ α) (time : Nat) : List (Gathering α) := e.begin.settledBy time

/-- Where every result so far has been waited for, nothing is settled on the side. -/
theorem background_eq_nil {e : Engine σ α} (h : ∀ task ∈ e.tasks, task.isOutstanding = false)
    (time : Nat) : e.background time = [] := by
  have hdue : e.begin.tasks.filterMap (Task.settledBy? time) = [] := by
    rw [begin, List.filterMap_map, List.filterMap_eq_nil_iff]
    intro task htask
    exact Task.settledBy?_eq_none ((task.isOutstanding_begin e.time).trans (h task htask)) time
  rw [background, settledBy, hdue, List.mergeSort_nil, List.map_nil]

/-- A gathering that was started last is settled by the time that its last response is due,
    along with those that are settled by then without it. -/
theorem background_perm {e e' : Engine σ α} {work : Gathering α}
    (htasks : e'.tasks = e.tasks ++ [.queued work]) (htime : e'.time = e.time) {time : Nat}
    (hdue : e.time + work.duration ≤ time) :
    (e'.background time).Perm (work :: e.background time) := by
  have hwork : Task.settledBy? time ((Task.queued work).begin e.time) =
      some ((work.responses.map fun r => e.time + r.delay).foldl max 0, work) := by
    refine if_pos (List.all_eq_true.mpr fun due hmem => ?_)
    exact decide_eq_true ((Gathering.due_le hmem).trans hdue)
  have hsplit : e'.begin.tasks.filterMap (Task.settledBy? time) =
      e.begin.tasks.filterMap (Task.settledBy? time) ++
        [((work.responses.map fun r => e.time + r.delay).foldl max 0, work)] := by
    rw [begin, begin, htasks, htime, List.map_append, List.filterMap_append]
    congr 1
    exact List.filterMap_cons_some hwork
  have hside : (e'.background time).Perm
      ((e.begin.tasks.filterMap (Task.settledBy? time)).map Prod.snd ++ [work]) := by
    refine ((List.mergeSort_perm _ _).map _).trans ?_
    rw [hsplit, List.map_append]
    rfl
  refine hside.trans ((List.perm_append_singleton _ _).trans (List.Perm.cons _ ?_))
  exact ((List.mergeSort_perm _ _).map _).symm

/-- Waiting for a gathering that was started last counts what it contributes, and what
    those do that are settled on the side. -/
theorem advance_counts {e e' : Engine σ α} {work : Gathering α}
    (htasks : e'.tasks = e.tasks ++ [.queued work]) (htime : e'.time = e.time) {time : Nat}
    (hdue : e.time + work.duration ≤ time) :
    (e'.begin.advance time).stats.failures =
        e'.stats.failures + Gathering.failuresOf (e.background time) + work.settle.failures ∧
      (e'.begin.advance time).stats.violations =
        e'.stats.violations + Gathering.violationsOf (e.background time) +
          if work.settle.surplus.isSome then 1 else 0 := by
  have hperm := background_perm htasks htime hdue
  rw [stats_advance]
  constructor
  · show e'.stats.failures + Gathering.failuresOf (e'.background time) = _
    rw [Gathering.failuresOf_perm hperm, Gathering.failuresOf, Nat.add_assoc]
  · show e'.stats.violations + Gathering.violationsOf (e'.background time) = _
    rw [Gathering.violationsOf_perm hperm, Gathering.violationsOf_cons, Nat.add_assoc]

/-! ## Executions -/

section Executions

variable [Backend σ]

theorem sendAll_frame (e : Engine σ α) (statements : List BoundStatement) :
    (e.sendAll statements).2.time = e.time ∧
      (e.sendAll statements).2.stats =
        { e.stats with requests := e.stats.requests + statements.length } := by
  induction statements generalizing e with
  | nil => exact ⟨rfl, rfl⟩
  | cons statement rest ih =>
    obtain ⟨htime, hstats⟩ := ih (e.send statement).2
    refine ⟨htime, ?_⟩
    rw [sendAll, hstats]
    show { e.stats with requests := e.stats.requests + 1 + rest.length } = _
    rw [List.length_cons, Nat.add_assoc, Nat.add_comm 1]

/-- An execution that gathers the responses to its plan adds to the counts of failures and
    violations what its gathering contributes, and what those do that are settled on the
    side. -/
theorem start_wait_counts (e : Engine σ α) (q : Query α) (mode : Mode) (plan : Plan)
    (hwalks : q.walks mode plan = false) {e' : Engine σ α}
    (he : ((e.start q mode (.ok plan)).wait e.tasks.length).2 = e') :
    e'.stats.failures = e.stats.failures + Gathering.failuresOf (e.background e'.time) +
        (e.gathering q mode plan).settle.failures ∧
      e'.stats.violations = e.stats.violations + Gathering.violationsOf (e.background e'.time) +
        if (e.gathering q mode plan).settle.surplus.isSome then 1 else 0 := by
  obtain ⟨htime, hstats⟩ := (e.accept q.text plan).sendAll_frame plan.statements
  have htasks := ((e.accept q.text plan).sendAll_spec plan.statements).2.2
  have hcount : (e.start q mode (.ok plan)).stats.failures = e.stats.failures ∧
      (e.start q mode (.ok plan)).stats.violations = e.stats.violations := by
    rw [start_of_not_walks e q mode plan hwalks, enqueue, hstats]
    cases plan <;> exact ⟨rfl, rfl⟩
  rw [start_wait_eq e q mode plan hwalks] at he
  subst he
  have htime : (e.start q mode (.ok plan)).time = e.time := by
    rw [start_of_not_walks e q mode plan hwalks]
    exact htime
  rw [← hcount.1, ← hcount.2]
  refine advance_counts ?_ htime (Nat.add_le_add_right (ge_of_eq htime) _)
  rw [start_of_not_walks e q mode plan hwalks, enqueue, htasks]
  rfl

end Executions

end Engine

/-- An execution that gathers the responses to its plan: its result, the exchanges that it
    adds, and what it adds to the counts of failures and violations. -/
theorem Client.execute_gathers [Backend σ] (c : Client σ α) (b : Binder α) {mode : Mode}
    {plan : Plan} (hplan : b.plan mode (b.query.source.stateAt (c.now b.query)) = .ok plan)
    (hasync : mode ≠ .sync) (hwalks : b.query.walks mode plan = false) :
    (c.execute b mode).1 = (c.engine.gathering b.query mode plan).settle.result ∧
      (c.execute b mode).2.engine.connection.exchanges =
        c.engine.connection.exchanges ++ trace c.engine.connection.store plan.statements ∧
      (c.execute b mode).2.engine.stats.failures =
        c.engine.stats.failures +
          Gathering.failuresOf (c.engine.background (c.execute b mode).2.engine.time) +
          (c.engine.gathering b.query mode plan).settle.failures ∧
      (c.execute b mode).2.engine.stats.violations =
        c.engine.stats.violations +
          Gathering.violationsOf (c.engine.background (c.execute b mode).2.engine.time) +
          if (c.engine.gathering b.query mode plan).settle.surplus.isSome then 1 else 0 := by
  obtain ⟨hresult, hengine⟩ := c.execute_eq_serve b mode
  rw [hplan, Engine.serve, if_neg hasync] at hresult hengine
  rw [hresult, hengine]
  obtain ⟨hsettle, hexchanges⟩ := c.engine.start_wait_of_not_walks b.query mode plan hwalks
  obtain ⟨hfailures, hviolations⟩ := c.engine.start_wait_counts b.query mode plan hwalks rfl
  exact ⟨hsettle, hexchanges, hfailures, hviolations⟩

end RotatedShards
