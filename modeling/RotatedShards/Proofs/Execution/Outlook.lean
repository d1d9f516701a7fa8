import RotatedShards.Proofs.Execution.Counters

/-!
# The outlook of an engine

What an engine has come to, apart from time. The responses to a statement are fixed when it
is issued, so what a gathering will result in, and what it will add to the counters, is known
from then on. The outlook of an engine anticipates both: the passing of time, in which
gatherings are settled, leaves it as it is.

Results:
* `Engine.outlook_advance`: the outlook does not change as time passes.
* `Engine.outlook_start`, `Engine.outlook_call`: what starting and calling do to it.
-/

namespace RotatedShards

variable {σ α : Type}

/-! ## Steps of a walk -/

namespace Exchange

/-- The statement of an exchange failed. -/
def fails (x : Exchange) : Bool := x.response.outcome.isFailure

theorem read_of_not_decides {mapper : RowMapper α} {x : Exchange}
    (h : x.decides mapper = false) : x.read mapper = .ok none := by
  unfold decides at h
  split at h
  · assumption
  · cases h

theorem firstRead_of_decides {mapper : RowMapper α} {x : Exchange}
    (h : x.decides mapper = true) (rest : List Exchange) :
    firstRead mapper (x :: rest) = x.read mapper := by
  unfold decides at h
  rw [firstRead]
  split at h
  · cases h
  · rfl

theorem fails_of_not_decides {mapper : RowMapper α} {x : Exchange}
    (h : x.decides mapper = false) : x.fails = false := by
  have hread := read_of_not_decides h
  obtain ⟨statement, delay, outcome⟩ := x
  cases outcome with
  | failed fault => cases hread
  | rows rows => rfl
  | crashed => rfl

end Exchange

theorem Gathering.settle_ofStep (mapper : RowMapper α) (x : Exchange) :
    (ofStep mapper x.response).settle =
      { result := (x.read mapper).map .item, failures := if x.fails then 1 else 0 } := by
  obtain ⟨statement, delay, outcome⟩ := x
  cases outcome <;> rfl

/-! ## Stores -/

section Stores

variable [Backend σ]

/-- A store after statements have been issued to it. -/
def storeAfter (store : σ) : List BoundStatement → σ
  | [] => store
  | statement :: rest => storeAfter (Backend.answer statement store).2 rest

/-- The statements that a walk issues. -/
def visited (mapper : RowMapper α) (store : σ) (statements : List BoundStatement) :
    List BoundStatement :=
  (Exchange.untilDecided mapper (trace store statements)).map Exchange.statement

/-- The first exchange of a walk, and those of the rest of it unless the first decides it. -/
theorem visited_cons (mapper : RowMapper α) (store : σ) (statement : BoundStatement)
    (rest : List BoundStatement) :
    visited mapper store (statement :: rest) =
      statement :: if (Exchange.on store statement).decides mapper then []
        else visited mapper (Backend.answer statement store).2 rest := by
  simp only [visited, trace, Exchange.untilDecided]
  rw [Exchange.on]
  split_ifs <;> rfl

theorem trace_visited (mapper : RowMapper α) (store : σ) (statements : List BoundStatement) :
    trace store (visited mapper store statements) =
      Exchange.untilDecided mapper (trace store statements) := by
  induction statements generalizing store with
  | nil => rfl
  | cons statement rest ih =>
    rw [visited_cons, trace, trace, Exchange.untilDecided, Exchange.on]
    split_ifs
    · rfl
    · exact congrArg (_ :: ·) (ih _)

/-- The gathering that is left of a plan whose statements are all issued to a store. -/
def Gathering.on (store : σ) (q : Query α) (mode : Mode) (plan : Plan) : Gathering α :=
  { merging := mode.merging plan, query := q.text, mapper := q.mapper
    responses := (trace store plan.statements).map Exchange.response }

theorem Gathering.outcomes_on (store : σ) (q : Query α) (mode : Mode) (plan : Plan) :
    (Gathering.on store q mode plan).outcomes =
      (trace store plan.statements).map Exchange.outcome := List.map_map

/-- What a walk through a store comes to. -/
def walked (mapper : RowMapper α) (store : σ) (statements : List BoundStatement) :
    Settlement α :=
  { result := (Exchange.firstRead mapper (trace store statements)).map .item
    failures := (Exchange.untilDecided mapper (trace store statements)).countP Exchange.fails }

/-- What a walk comes to is what its first exchange comes to if that decides it, and what the
    rest of the walk does otherwise. -/
theorem walked_cons (mapper : RowMapper α) (store : σ) (statement : BoundStatement)
    (rest : List BoundStatement) :
    walked mapper store (statement :: rest) =
      if (Exchange.on store statement).decides mapper then
        (Gathering.ofStep mapper (Exchange.on store statement).response).settle
      else walked mapper (Backend.answer statement store).2 rest := by
  have htrace : trace store (statement :: rest) =
      Exchange.on store statement :: trace (Backend.answer statement store).2 rest := rfl
  rw [Gathering.settle_ofStep]
  simp only [walked, htrace, Exchange.untilDecided]
  cases hdecides : (Exchange.on store statement).decides mapper with
  | true =>
    rw [if_pos rfl, if_pos rfl, List.countP_singleton, Exchange.firstRead_of_decides hdecides]
  | false =>
    have hfails := Exchange.fails_of_not_decides hdecides
    rw [if_neg Bool.false_ne_true, if_neg Bool.false_ne_true, Exchange.firstRead,
      Exchange.read_of_not_decides hdecides, List.countP_cons_of_neg (by rw [hfails]; simp)]

end Stores

/-! ## Outlooks -/

/-- What a task promises: a result, which may not be there yet, to go through the shards, or
    nothing any more. -/
inductive Promise (α : Type)
  | result (result : Except QueryError (Answer α))
  | walk (mapper : RowMapper α) (statements : List BoundStatement)
  | taken

namespace Promise

/-- What a walk promises while it waits for a response: to go through the rest of the
    shards, unless the response decides it. -/
def ofResponse (work : Gathering α) (rest : List BoundStatement) : Promise α :=
  match work.settle.result with
  | .ok (.item none) => .walk work.mapper rest
  | decided => .result decided

theorem ofResponse_of_decides {mapper : RowMapper α} {x : Exchange}
    (h : x.decides mapper = true) (rest : List BoundStatement) :
    ofResponse (.ofStep mapper x.response) rest = .result ((x.read mapper).map .item) := by
  rw [ofResponse, Gathering.settle_ofStep]
  rw [Exchange.decides] at h
  cases hread : x.read mapper with
  | error e => rfl
  | ok found =>
    cases found with
    | some item => rfl
    | none =>
      rw [hread] at h
      cases h

theorem ofResponse_of_not_decides {mapper : RowMapper α} {x : Exchange}
    (h : x.decides mapper = false) (rest : List BoundStatement) :
    ofResponse (.ofStep mapper x.response) rest = .walk mapper rest := by
  rw [ofResponse, Gathering.settle_ofStep, Exchange.read_of_not_decides h]
  rfl

end Promise

/-- A store, the exchanges with it, the counters as they will be once everything that was
    issued has been settled, and what the tasks promise. -/
structure Outlook (σ α : Type) where
  store : σ
  exchanges : List Exchange
  totals : Statistics
  promises : List (Promise α)

namespace Outlook

/-- A plan has been accepted. -/
def accept (o : Outlook σ α) (plan : Plan) : Outlook σ α :=
  { o with totals := o.totals.countPlan plan }

/-- A settlement has been counted, or is bound to be. -/
def count (o : Outlook σ α) (s : Settlement α) : Outlook σ α :=
  { o with totals := o.totals.countSettlement s }

theorem count_none (o : Outlook σ α) {s : Settlement α} (hfailures : s.failures = 0)
    (hsurplus : s.surplus = none) : o.count s = o := by
  simp only [count, Statistics.countSettlement, hfailures, hsurplus]
  rfl

/-- A task has been added. -/
def promise (o : Outlook σ α) (p : Promise α) : Outlook σ α :=
  { o with promises := o.promises ++ [p] }

/-- A task promises something else. -/
def put (o : Outlook σ α) (task : Nat) (p : Promise α) : Outlook σ α :=
  { o with promises := o.promises.set task p }

/-- The result of a task has been handed over. -/
def take (o : Outlook σ α) (task : Nat) : Outlook σ α := o.put task .taken

variable [Backend σ]

/-- Statements have been issued one after the other. -/
def issue (o : Outlook σ α) (statements : List BoundStatement) : Outlook σ α :=
  { o with
    store := storeAfter o.store statements
    exchanges := o.exchanges ++ trace o.store statements
    totals := { o.totals with requests := o.totals.requests + statements.length } }

theorem issue_nil (o : Outlook σ α) : o.issue [] = o := by
  simp only [issue, storeAfter, trace, List.append_nil, List.length_nil, Nat.add_zero]

theorem issue_append (o : Outlook σ α) (ss ts : List BoundStatement) :
    o.issue (ss ++ ts) = (o.issue ss).issue ts := by
  have hstore (store : σ) : storeAfter store (ss ++ ts) = storeAfter (storeAfter store ss) ts ∧
      trace store (ss ++ ts) = trace store ss ++ trace (storeAfter store ss) ts := by
    induction ss generalizing store with
    | nil => exact ⟨rfl, rfl⟩
    | cons s ss ih =>
      obtain ⟨hafter, htrace⟩ := ih (Backend.answer s store).2
      exact ⟨hafter, congrArg (_ :: ·) htrace⟩
  simp only [issue, (hstore o.store).1, (hstore o.store).2, List.length_append,
    List.append_assoc, Nat.add_assoc]

/-- A plan has been started. Unless it is walked, its result is promised from now on. -/
def start (o : Outlook σ α) (q : Query α) (mode : Mode) : Except QueryError Plan → Outlook σ α
  | .error error => o.promise (.result (.error error))
  | .ok plan =>
    if q.walks mode plan then (o.accept plan).promise (.walk q.mapper plan.statements)
    else
      let settlement := (Gathering.on o.store q mode plan).settle
      (((o.accept plan).issue plan.statements).count settlement).promise (.result settlement.result)

theorem start_of_walks (o : Outlook σ α) {q : Query α} {mode : Mode} {plan : Plan}
    (hwalks : q.walks mode plan = true) :
    o.start q mode (.ok plan) = (o.accept plan).promise (.walk q.mapper plan.statements) :=
  if_pos hwalks

theorem start_of_not_walks (o : Outlook σ α) {q : Query α} {mode : Mode} {plan : Plan}
    (hwalks : q.walks mode plan = false) :
    o.start q mode (.ok plan) =
      (((o.accept plan).issue plan.statements).count
        (Gathering.on o.store q mode plan).settle).promise
          (.result (Gathering.on o.store q mode plan).settle.result) :=
  if_neg (by rw [hwalks]; exact Bool.false_ne_true)

/-- To start an execution adds a promise behind those that there are. If it is a walk, the
    objects are decoded as those of the query. -/
theorem exists_promises_start (o : Outlook σ α) (q : Query α) (mode : Mode)
    (plan : Except QueryError Plan) :
    ∃ p, (o.start q mode plan).promises = o.promises ++ [p] ∧
      ∀ mapper statements, p = .walk mapper statements → mapper = q.mapper := by
  cases plan with
  | error error => exact ⟨_, rfl, by rintro _ _ ⟨⟩⟩
  | ok plan =>
    cases hwalks : q.walks mode plan with
    | true =>
      rw [o.start_of_walks hwalks]
      exact ⟨_, rfl, by rintro _ _ ⟨⟩; rfl⟩
    | false =>
      rw [o.start_of_not_walks hwalks]
      exact ⟨_, rfl, by rintro _ _ ⟨⟩⟩

/-- A plan has been executed on the calling thread. -/
def call (o : Outlook σ α) (q : Query α) :
    Except QueryError Plan → Except QueryError (Answer α) × Outlook σ α
  | .error error => (.error error, o)
  | .ok plan =>
    match plan.statements with
    | [] => (.ok (.rows .empty), o.accept plan)
    | statement :: _ =>
      let response := (Backend.answer statement o.store).1
      let settlement := (Gathering.mk .rows q.text q.mapper [response]).settle
      (settlement.result, ((o.accept plan).issue [statement]).count settlement)

theorem promises_call (o : Outlook σ α) (q : Query α) (plan : Except QueryError Plan) :
    (o.call q plan).2.promises = o.promises := by
  cases plan with
  | error error => rfl
  | ok plan =>
    simp only [call]
    cases plan.statements with
    | nil => rfl
    | cons statement rest => rfl

/-- A task has been waited for. -/
def wait (o : Outlook σ α) (task : Nat) : Except QueryError (Answer α) × Outlook σ α :=
  match o.promises[task]? with
  | none | some .taken => (.error (.worker .resultTaken), o)
  | some (.result result) => (result, o.take task)
  | some (.walk mapper statements) =>
    let settlement := walked mapper o.store statements
    (settlement.result,
      ((o.issue (visited mapper o.store statements)).count settlement).take task)

theorem wait_of_walk {o : Outlook σ α} {t : Nat} {mapper : RowMapper α}
    {statements : List BoundStatement} (h : o.promises[t]? = some (.walk mapper statements)) :
    o.wait t = ((walked mapper o.store statements).result,
      ((o.issue (visited mapper o.store statements)).count
        (walked mapper o.store statements)).take t) := by
  simp only [wait, h]

theorem wait_put_result {o : Outlook σ α} {t : Nat} (h : t < o.promises.length)
    (result : Except QueryError (Answer α)) :
    (o.put t (.result result)).wait t = (result, o.take t) := by
  have hp : (o.put t (.result result)).promises[t]? = some _ := List.getElem?_set_self h
  rw [wait, hp]
  simp only [take, put, List.set_set]

theorem wait_put_walk {o : Outlook σ α} {t : Nat} (h : t < o.promises.length)
    (mapper : RowMapper α) (statements : List BoundStatement) :
    (o.put t (.walk mapper statements)).wait t = ((walked mapper o.store statements).result,
      ((o.issue (visited mapper o.store statements)).count
        (walked mapper o.store statements)).take t) := by
  have hp : (o.put t (.walk mapper statements)).promises[t]? = some _ := List.getElem?_set_self h
  rw [wait_of_walk hp]
  simp only [take, put, issue, count, List.set_set]

theorem promises_wait_cases (o : Outlook σ α) (task : Nat) :
    (o.wait task).2.promises = o.promises ∨
      (o.wait task).2.promises = o.promises.set task .taken := by
  unfold wait
  cases o.promises[task]? with
  | none => exact Or.inl rfl
  | some p =>
    cases p with
    | taken => exact Or.inl rfl
    | result result => exact Or.inr rfl
    | walk mapper statements => exact Or.inr rfl

/-- A plan has been executed. -/
def serve (o : Outlook σ α) (q : Query α) (mode : Mode) (plan : Except QueryError Plan) :
    Except QueryError (Answer α) × Outlook σ α :=
  if mode = .sync then o.call q plan else (o.start q mode plan).wait o.promises.length

/-- A plan that is executed without a walk has the result of its gathering, and all its
    statements have been issued. -/
theorem serve_of_not_walks (o : Outlook σ α) {q : Query α} {mode : Mode} {plan : Plan}
    (hwalks : q.walks mode plan = false)
    (hmode : mode.merges = true ∨ ∃ shard statement, plan = .single shard statement) :
    (o.serve q mode (.ok plan)).1 = (Gathering.on o.store q mode plan).settle.result ∧
      (o.serve q mode (.ok plan)).2.store = storeAfter o.store plan.statements := by
  unfold serve
  split_ifs with hsync
  · subst hsync
    rcases hmode with hmerges | ⟨shard, statement, rfl⟩
    · cases hmerges
    · exact ⟨rfl, rfl⟩
  · have hpromise : (o.start q mode (.ok plan)).promises[o.promises.length]? =
        some (.result (Gathering.on o.store q mode plan).settle.result) := by
      rw [o.start_of_not_walks hwalks]
      exact List.getElem?_concat_length
    rw [wait, hpromise]
    refine ⟨rfl, ?_⟩
    rw [o.start_of_not_walks hwalks]
    rfl

end Outlook

/-! ## Outstanding work -/

namespace Gathering

theorem failuresOf_append (gs hs : List (Gathering α)) :
    failuresOf (gs ++ hs) = failuresOf gs + failuresOf hs := by
  induction gs with
  | nil => rw [List.nil_append, failuresOf, Nat.zero_add]
  | cons g gs ih =>
    rw [List.cons_append, failuresOf, failuresOf, ih]
    omega

end Gathering

namespace Task

/-- The gathering of a task that has not been settled. -/
def work? : Task α → Option (Gathering α)
  | .queued work | .running work _ | .asking work _ _ => some work
  | _ => none

/-- What a task promises. -/
def promise : Task α → Promise α
  | .rejected error => .result (.error error)
  | .queued work | .running work _ => .result work.settle.result
  | .walking mapper statements => .walk mapper statements
  | .asking work _ rest => .ofResponse work rest
  | .settled result => .result result
  | .taken => .taken

theorem work?_eq_none {task : Task α} (h : task.isOutstanding = false) : task.work? = none := by
  cases task with
  | queued work => cases h
  | running work due => cases h
  | asking work due rest => cases h
  | rejected error => rfl
  | walking mapper statements => rfl
  | settled result => rfl
  | taken => rfl

theorem work?_begin (now : Nat) (task : Task α) : (task.begin now).work? = task.work? := by
  cases task <;> rfl

theorem promise_begin (now : Nat) (task : Task α) : (task.begin now).promise = task.promise := by
  cases task <;> rfl

theorem work?_ofResponse (work : Gathering α) (rest : List BoundStatement) :
    (ofResponse work rest).work? = none := by
  unfold ofResponse
  split <;> rfl

theorem promise_ofResponse (work : Gathering α) (rest : List BoundStatement) :
    (ofResponse work rest).promise = .ofResponse work rest := by
  unfold ofResponse Promise.ofResponse
  rcases work.settle.result with error | (rows | items | (none | item)) <;> rfl

theorem promise_pass (time : Nat) (task : Task α) : (task.pass time).promise = task.promise := by
  cases task with
  | running work due =>
    rw [pass]
    split_ifs <;> rfl
  | asking work due rest =>
    rw [pass]
    split_ifs
    · exact promise_ofResponse work rest
    · rfl
  | queued work => rfl
  | rejected error => rfl
  | walking mapper statements => rfl
  | settled result => rfl
  | taken => rfl

/-- A gathering is either settled by a given time or goes on after it. -/
theorem work?_pass (time : Nat) (task : Task α) :
    task.work?.toList =
      ((task.settledBy? time).map Prod.snd).toList ++ (task.pass time).work?.toList := by
  cases task with
  | running work due =>
    rw [pass, settledBy?]
    split_ifs <;> rfl
  | asking work due rest =>
    rw [pass, settledBy?]
    split_ifs
    · rw [work?_ofResponse]
      rfl
    · rfl
  | queued work => rfl
  | rejected error => rfl
  | walking mapper statements => rfl
  | settled result => rfl
  | taken => rfl

end Task

namespace Engine

/-! ### Anticipation -/

/-- The gatherings that have not been settled. -/
def outstanding (e : Engine σ α) : List (Gathering α) := e.tasks.filterMap Task.work?

/-- The counters, once all gatherings will have been settled. -/
def totals (e : Engine σ α) : Statistics :=
  { e.stats with
    failures := e.stats.failures + Gathering.failuresOf e.outstanding
    violations := e.stats.violations + Gathering.violationsOf e.outstanding }

/-- The outlook of an engine. -/
def outlook (e : Engine σ α) : Outlook σ α :=
  { store := e.connection.store, exchanges := e.connection.exchanges, totals := e.totals
    promises := e.tasks.map Task.promise }

theorem totals_eq_stats {e : Engine σ α} (h : ∀ task ∈ e.tasks, task.isOutstanding = false) :
    e.totals = e.stats := by
  have hnone : e.outstanding = [] :=
    List.filterMap_eq_nil_iff.mpr fun task htask => Task.work?_eq_none (h task htask)
  rw [totals, hnone]
  rfl

/-- An outlook depends on the connection, the tasks and the totals only. -/
theorem outlook_congr {e e' : Engine σ α} (hstore : e'.connection.store = e.connection.store)
    (hexchanges : e'.connection.exchanges = e.connection.exchanges)
    (htotals : e'.totals = e.totals)
    (hpromises : e'.tasks.map Task.promise = e.tasks.map Task.promise) :
    e'.outlook = e.outlook := by
  simp only [outlook, hstore, hexchanges, htotals, hpromises]

/-! ### Time -/

theorem outlook_begin (e : Engine σ α) : e.begin.outlook = e.outlook := by
  have houtstanding : e.begin.outstanding = e.outstanding := by
    rw [outstanding, begin, List.filterMap_map]
    exact List.filterMap_congr fun task _ => task.work?_begin e.time
  refine outlook_congr rfl rfl ?_ ?_
  · simp only [totals, houtstanding]
    rfl
  · rw [begin, List.map_map]
    exact List.map_congr_left fun task _ => task.promise_begin e.time

/-- The outstanding gatherings are those that are settled by a given time and those that are
    outstanding afterwards. -/
theorem outstanding_perm (e : Engine σ α) (time : Nat) :
    e.outstanding.Perm (e.settledBy time ++ (e.advance time).outstanding) := by
  have hsettled : (e.settledBy time).Perm
      ((e.tasks.filterMap (Task.settledBy? time)).map Prod.snd) :=
    (List.mergeSort_perm _ _).map _
  have hsplit (tasks : List (Task α)) : (tasks.filterMap Task.work?).Perm
      ((tasks.filterMap (Task.settledBy? time)).map Prod.snd ++
        (tasks.map (Task.pass time)).filterMap Task.work?) := by
    induction tasks with
    | nil => exact .nil
    | cons task rest ih =>
      have hcons (f : Task α → Option (Gathering α)) :
          (task :: rest).filterMap f = (f task).toList ++ rest.filterMap f := by
        rw [List.filterMap_cons]
        cases f task <;> rfl
      rw [List.map_filterMap, List.filterMap_map] at ih ⊢
      rw [hcons, hcons, hcons]
      have hhead : task.work?.toList =
          ((task.settledBy? time).map Prod.snd).toList ++ (task.pass time).work?.toList :=
        task.work?_pass time
      rw [hhead, List.append_assoc, List.append_assoc]
      refine List.Perm.append_left _ ?_
      refine (List.Perm.append_left _ ih).trans ?_
      rw [← List.append_assoc, ← List.append_assoc]
      exact List.Perm.append_right _ List.perm_append_comm
  exact (hsplit e.tasks).trans (List.Perm.append_right _ hsettled.symm)

/-- Time that passes settles gatherings, which the outlook anticipates. -/
theorem outlook_advance (e : Engine σ α) (time : Nat) : (e.advance time).outlook = e.outlook := by
  have hperm := e.outstanding_perm time
  have hfailures := Gathering.failuresOf_perm hperm
  have hviolations := Gathering.violationsOf_perm hperm
  rw [Gathering.failuresOf_append] at hfailures
  rw [Gathering.violationsOf, Gathering.violationsOf, List.countP_append] at hviolations
  refine outlook_congr rfl rfl ?_ ?_
  · rw [totals, totals, stats_advance, hfailures, Gathering.violationsOf, Gathering.violationsOf,
      Gathering.violationsOf, hviolations, Nat.add_assoc, Nat.add_assoc]
  · show (e.tasks.map (Task.pass time)).map Task.promise = _
    rw [List.map_map]
    exact List.map_congr_left fun task _ => task.promise_pass time

/-! ### Tasks that come and go -/

theorem totals_of_perm_cons {e e' : Engine σ α} {work : Gathering α} (hstats : e'.stats = e.stats)
    (hperm : e'.outstanding.Perm (work :: e.outstanding)) :
    e'.totals = e.totals.countSettlement work.settle := by
  simp only [totals, Statistics.countSettlement, hstats, Gathering.failuresOf_perm hperm,
    Gathering.violationsOf_perm hperm, Gathering.failuresOf, Gathering.violationsOf_cons,
    Nat.add_assoc]

theorem outlook_enqueue {task : Task α} (h : task.work? = none) (e : Engine σ α) :
    (e.enqueue task).outlook = e.outlook.promise task.promise := by
  have houtstanding : (e.enqueue task).outstanding = e.outstanding := by
    show (e.tasks ++ [task]).filterMap Task.work? = _
    rw [List.filterMap_append, List.filterMap_cons_none h, List.filterMap_nil, List.append_nil]
    rfl
  simp only [outlook, Outlook.promise, totals, houtstanding]
  simp only [enqueue, List.map_append]
  rfl

theorem outlook_enqueue_queued (e : Engine σ α) (work : Gathering α) :
    (e.enqueue (.queued work)).outlook =
      (e.outlook.count work.settle).promise (.result work.settle.result) := by
  have houtstanding : (e.enqueue (.queued work)).outstanding = e.outstanding ++ [work] :=
    List.filterMap_append
  have htotals : (e.enqueue (.queued work)).totals = e.totals.countSettlement work.settle :=
    totals_of_perm_cons rfl (houtstanding ▸ List.perm_append_singleton work e.outstanding)
  simp only [outlook, Outlook.count, Outlook.promise, htotals]
  simp only [enqueue, List.map_append]
  rfl

/-- The work of a task that replaces one without any is added to what is outstanding. -/
theorem outstanding_put {e : Engine σ α} {t : Nat} {task : Task α}
    (htask : e.tasks[t]? = some task) (hdone : task.work? = none) (new : Task α) :
    (e.put t new).outstanding.Perm (new.work?.toList ++ e.outstanding) := by
  have hset (tasks : List (Task α)) (i : Nat) (hi : tasks[i]? = some task) :
      ((tasks.set i new).filterMap Task.work?).Perm
        (new.work?.toList ++ tasks.filterMap Task.work?) := by
    induction tasks generalizing i with
    | nil => cases hi
    | cons first rest ih =>
      cases i with
      | zero =>
        cases hi
        rw [List.set_cons_zero, List.filterMap_cons, List.filterMap_cons, hdone]
        cases new.work? <;> exact .refl _
      | succ i =>
        rw [List.set_cons_succ, List.filterMap_cons, List.filterMap_cons]
        cases first.work? with
        | none => exact ih i hi
        | some work => exact ((ih i hi).cons work).trans List.perm_middle.symm
  exact hset e.tasks t htask

theorem outlook_put {e : Engine σ α} {t : Nat} {task new : Task α}
    (htask : e.tasks[t]? = some task) (hdone : task.work? = none) (hnew : new.work? = none) :
    (e.put t new).outlook = e.outlook.put t new.promise := by
  have hperm : (e.put t new).outstanding.Perm e.outstanding := by
    have hput := outstanding_put htask hdone new
    rwa [hnew] at hput
  have htotals : (e.put t new).totals = e.totals := by
    simp only [totals, Gathering.failuresOf_perm hperm, Gathering.violationsOf_perm hperm]
    rfl
  simp only [outlook, Outlook.put, htotals]
  simp only [put, List.map_set]

/-- The response that a walk waits for is anticipated from then on. -/
theorem outlook_put_asking {e : Engine σ α} {t : Nat} {task : Task α}
    (htask : e.tasks[t]? = some task) (hdone : task.work? = none) (work : Gathering α)
    (due : Nat) (rest : List BoundStatement) :
    (e.put t (.asking work due rest)).outlook =
      (e.outlook.count work.settle).put t (.ofResponse work rest) := by
  have htotals : (e.put t (.asking work due rest)).totals =
      e.totals.countSettlement work.settle :=
    totals_of_perm_cons rfl (outstanding_put htask hdone (.asking work due rest))
  simp only [outlook, Outlook.count, Outlook.put, htotals]
  simp only [put, List.map_set]
  rfl

/-! ### Executions -/

section Executions

variable [Backend σ]

theorem outlook_sendAll (e : Engine σ α) (statements : List BoundStatement) :
    (e.sendAll statements).2.outlook = e.outlook.issue statements := by
  obtain ⟨-, hexchanges, htasks⟩ := e.sendAll_spec statements
  obtain ⟨-, hstats⟩ := e.sendAll_frame statements
  have hstore : (e.sendAll statements).2.connection.store =
      storeAfter e.connection.store statements := by
    clear hexchanges htasks hstats
    induction statements generalizing e with
    | nil => rfl
    | cons statement rest ih => exact ih (e.send statement).2
  simp only [outlook, Outlook.issue, totals, outstanding, hexchanges, htasks, hstats, hstore]

omit [Backend σ] in
theorem outlook_accept (e : Engine σ α) (query : String) (plan : Plan) :
    (e.accept query plan).outlook = e.outlook.accept plan := by
  cases plan <;> rfl

/-- From the start of a plan that is not walked its result is promised. -/
theorem outlook_start (e : Engine σ α) (q : Query α) (mode : Mode)
    (plan : Except QueryError Plan) :
    (e.start q mode plan).outlook = e.outlook.start q mode plan := by
  cases plan with
  | error error => exact outlook_enqueue rfl e
  | ok plan =>
    cases hwalks : q.walks mode plan with
    | true =>
      rw [start_of_walks e q mode plan hwalks, outlook_enqueue rfl, outlook_accept,
        Outlook.start_of_walks _ hwalks]
      rfl
    | false =>
      rw [start_of_not_walks e q mode plan hwalks, outlook_enqueue_queued, outlook_sendAll,
        outlook_accept, Outlook.start_of_not_walks _ hwalks]
      rfl

omit [Backend σ] in
theorem outlook_countFailures (e : Engine σ α) {s : Settlement α} {count : Nat}
    (hfailures : s.failures = count) (hsurplus : s.surplus = none) :
    (e.countFailures count).outlook = e.outlook.count s := by
  have houtstanding : (e.countFailures count).outstanding = e.outstanding := rfl
  have htotals : (e.countFailures count).totals = e.totals.countSettlement s := by
    simp only [totals, Statistics.countSettlement, houtstanding, hfailures, hsurplus]
    simp only [countFailures, Option.isSome_none, Bool.false_eq_true, if_false, Nat.add_zero,
      Nat.add_right_comm]
  simp only [outlook, Outlook.count, htotals]
  rfl

/-- A call on the calling thread is settled at once. -/
theorem outlook_call (e : Engine σ α) (q : Query α) (plan : Except QueryError Plan) :
    (e.call q plan).1 = (e.outlook.call q plan).1 ∧
      (e.call q plan).2.outlook = (e.outlook.call q plan).2 := by
  cases plan with
  | error error => exact ⟨rfl, rfl⟩
  | ok plan =>
    simp only [call, Outlook.call]
    cases plan.statements with
    | nil => exact ⟨rfl, e.outlook_accept q.text plan⟩
    | cons statement rest =>
      have hask : ((e.accept q.text plan).ask statement).2.outlook =
          (e.outlook.accept plan).issue [statement] := by
        rw [← e.outlook_accept q.text plan]
        rfl
      have hresponse : ((e.accept q.text plan).ask statement).1 =
          (Backend.answer statement e.outlook.store).1 := rfl
      simp only [hresponse]
      obtain ⟨delay, outcome⟩ := (Backend.answer statement e.outlook.store).1
      cases outcome with
      | rows rows => exact ⟨rfl, hask⟩
      | failed fault => exact ⟨rfl, by rw [← hask]; exact outlook_countFailures _ rfl rfl⟩
      | crashed => exact ⟨rfl, hask⟩

end Executions

end Engine

end RotatedShards
