import RotatedShards.Proofs.Execution.Composition
import RotatedShards.Proofs.Execution.Foresight
import RotatedShards.Proofs.Execution.Ledger
import RotatedShards.Proofs.Execution.Surpluses
import RotatedShards.Proofs.Execution.Violations

/-!
# Accounts

The counters of a client that starts afresh account exactly for what it has done: how many
statements it has issued and how many of them failed, how many executions had a plan, for one
shard and for several, and how many found too many objects. Every command is accounted for
when it is taken, in the outlook; the counters themselves follow once everything is settled.
That a read for at most one object found several is counted where it is found, in the engine;
an error of the same kind that a mapper or a source of states comes up with is not.

Results:
* `Client.accounted_step`, `Client.accounted_run`: what each command, and so each run, is
  accounted for with.
* `Client.accounts`: the counters of a client that starts afresh.
-/

namespace RotatedShards

variable {σ α : Type}

/-! ## What is accounted for -/

namespace Promise

/-- The result that is promised. -/
def result? : Promise α → Option (Except QueryError (Answer α))
  | .result r => some r
  | _ => none

/-- The promised result is that there are too many objects. -/
def violates (p : Promise α) : Bool := p.result?.any RotatedShards.violates

end Promise

theorem Gathering.failures_of_trace [Backend σ] [Tabled σ] {g : Gathering α} {store : σ}
    {statements : List BoundStatement}
    (h : g.outcomes = (trace store statements).map Exchange.outcome) :
    g.settle.failures = (trace store statements).countP Exchange.fails := by
  have hcrash (store : σ) :
      ((trace store statements).map Exchange.outcome).any Outcome.isCrash = false := by
    clear h
    induction statements generalizing store with
    | nil => rfl
    | cons statement rest ih =>
      rw [trace, List.map_cons, List.any_cons, Bool.or_eq_false_iff]
      exact ⟨Tabled.not_isCrash statement store, ih _⟩
  rw [failures_settle (by rw [h]; exact hcrash store), h, List.countP_map]
  rfl

/-! ## Accounts of an outlook -/

namespace Outlook

/-! ### Walks -/

section Walks

variable [Backend σ] {o : Outlook σ α} {q : Query α} {mode : Mode} {t : Nat} {mapper : RowMapper α}
  {statements : List BoundStatement}

theorem walk_of_start {plan : Except QueryError Plan}
    (h : (o.start q mode plan).promises[t]? = some (.walk mapper statements)) :
    o.promises[t]? = some (.walk mapper statements) ∨ mapper = q.mapper := by
  obtain ⟨p, hp, hwalk⟩ := o.exists_promises_start q mode plan
  rw [hp, List.getElem?_append] at h
  split_ifs at h with hlt
  · exact Or.inl h
  · exact Or.inr (hwalk mapper statements (List.mem_singleton.mp (List.mem_of_getElem? h)).symm)

theorem walk_of_wait {task : Nat}
    (h : (o.wait task).2.promises[t]? = some (.walk mapper statements)) :
    o.promises[t]? = some (.walk mapper statements) := by
  rcases o.promises_wait_cases task with heq | heq
  · rw [heq] at h
    exact h
  · rw [heq, List.getElem?_set] at h
    split_ifs at h
    · cases h
    · exact h

theorem walk_of_turn {task : Nat}
    (h : (o.turn task).promises[t]? = some (.walk mapper statements)) :
    ∃ before, o.promises[t]? = some (.walk mapper before) := by
  unfold turn at h
  split at h
  · rename_i mapper' statement rest hp
    dsimp only [put] at h
    rw [List.getElem?_set] at h
    split_ifs at h with heq
    · rw [Option.some.injEq, Promise.ofResponse] at h
      split at h
      · cases h
        exact ⟨_, heq ▸ hp⟩
      · cases h
    · exact ⟨_, h⟩
  · dsimp only [put] at h
    rw [List.getElem?_set] at h
    split_ifs at h
    · cases h
    · exact ⟨_, h⟩
  · exact ⟨_, h⟩

theorem walk_of_serve {plan : Except QueryError Plan}
    (h : (o.serve q mode plan).2.promises[t]? = some (.walk mapper statements)) :
    o.promises[t]? = some (.walk mapper statements) ∨ mapper = q.mapper := by
  unfold serve at h
  split_ifs at h
  · rw [promises_call] at h
    exact Or.inl h
  · exact walk_of_start (walk_of_wait h)

end Walks

/-! ### Violations -/

/-- How many of the promised results are violations. -/
def violating (o : Outlook σ α) : Nat := o.promises.countP Promise.violates

/-- What changes an outlook is accounted for: by exchanges, of which each is a request, by
    executions, which count if they have a plan, and by results that are handed over. Every
    violation that is counted is promised or handed over, and if all is `honest`, there are no
    others. -/
structure Accounted (honest : Prop) (o o' : Outlook σ α) (invocations : List (Invocation α))
    (results : List (Except QueryError (Answer α))) : Prop where
  exchanges : ∃ xs, o'.exchanges = o.exchanges ++ xs ∧
    o'.totals.requests = o.totals.requests + xs.length ∧
    o'.totals.failures = o.totals.failures + xs.countP Exchange.fails
  single : o'.totals.single = o.totals.single + invocations.countP Invocation.isSingle
  fanOut : o'.totals.fanOut = o.totals.fanOut + invocations.countP Invocation.isFanOut
  violations_le : o'.totals.violations + o.violating ≤
    o.totals.violations + o'.violating + results.countP violates
  violations_eq : honest → o'.totals.violations + o.violating =
    o.totals.violations + o'.violating + results.countP violates

namespace Accounted

variable {honest : Prop} {o o' o'' : Outlook σ α} {invocations : List (Invocation α)}
  {results : List (Except QueryError (Answer α))}

theorem trans {invocations' : List (Invocation α)} {results' : List (Except QueryError (Answer α))}
    (h : Accounted honest o o' invocations results)
    (h' : Accounted honest o' o'' invocations' results') :
    Accounted honest o o'' (invocations ++ invocations') (results ++ results') where
  exchanges := by
    obtain ⟨xs, hxs, hrequests, hfailures⟩ := h.exchanges
    obtain ⟨xs', hxs', hrequests', hfailures'⟩ := h'.exchanges
    refine ⟨xs ++ xs', by rw [hxs', hxs, List.append_assoc], ?_, ?_⟩
    · rw [hrequests', hrequests, List.length_append, Nat.add_assoc]
    · rw [hfailures', hfailures, List.countP_append, Nat.add_assoc]
  single := by rw [h'.single, h.single, List.countP_append, Nat.add_assoc]
  fanOut := by rw [h'.fanOut, h.fanOut, List.countP_append, Nat.add_assoc]
  violations_le := by
    have hle := h.violations_le
    have hle' := h'.violations_le
    rw [List.countP_append]
    omega
  violations_eq hhonest := by
    have heq := h.violations_eq hhonest
    have heq' := h'.violations_eq hhonest
    rw [List.countP_append]
    omega

/-- Where neither totals nor exchanges nor promises change, there is nothing to account for. -/
theorem of_eq (hexchanges : o'.exchanges = o.exchanges) (htotals : o'.totals = o.totals)
    (hpromises : o'.promises = o.promises) : Accounted honest o o' [] [] where
  exchanges := ⟨[], by rw [hexchanges, List.append_nil], by rw [htotals]; rfl, by rw [htotals]; rfl⟩
  single := by rw [htotals]; rfl
  fanOut := by rw [htotals]; rfl
  violations_le := by
    rw [htotals, violating, violating, hpromises]
    exact Nat.le_refl _
  violations_eq _ := by
    rw [htotals, violating, violating, hpromises]
    rfl

theorem hand (h : Accounted honest o o' invocations results) {r : Except QueryError (Answer α)}
    (hr : honest → violates r = false) : Accounted honest o o' invocations (results ++ [r]) where
  exchanges := h.exchanges
  single := h.single
  fanOut := h.fanOut
  violations_le := by
    have hle := h.violations_le
    rw [List.countP_append]
    omega
  violations_eq hhonest := by
    rw [h.violations_eq hhonest, List.countP_append, List.countP_singleton,
      if_neg (by rw [hr hhonest]; exact Bool.false_ne_true), Nat.add_zero]

/-- A plan that is accepted is counted by the rule of selection that it is due to. -/
theorem accept [Backend σ] (o : Outlook σ α) {b : Binder α} {mode : Mode}
    {state : Except QueryError RotationState} {plan : Plan} (h : b.plan mode state = .ok plan) :
    Accounted honest o (o.accept plan) [.on o.store b mode (.ok plan)] [] where
  exchanges := by
    refine ⟨[], (List.append_nil _).symm, ?_, ?_⟩
    · cases plan <;> rfl
    · cases plan <;> rfl
  single := by
    rcases Binder.single_or_fanOut_of_plan h with ⟨hs, _, _, rfl⟩ | ⟨hs, _, _, rfl⟩
    · simp [Invocation.isSingle, Invocation.isAccepted, Invocation.on, hs, Outlook.accept,
        Statistics.countPlan, Except.isOk, Except.toBool]
    · simp [Invocation.isSingle, Invocation.isAccepted, Invocation.on, hs, Outlook.accept,
        Statistics.countPlan]
  fanOut := by
    rcases Binder.single_or_fanOut_of_plan h with ⟨hs, _, _, rfl⟩ | ⟨hs, _, _, rfl⟩
    · simp [Invocation.isFanOut, Invocation.isAccepted, Invocation.on, hs, Outlook.accept,
        Statistics.countPlan]
    · simp [Invocation.isFanOut, Invocation.isAccepted, Invocation.on, hs, Outlook.accept,
        Statistics.countPlan, Except.isOk, Except.toBool]
  violations_le := by cases plan <;> exact Nat.le_refl _
  violations_eq _ := by cases plan <;> rfl

theorem refused [Backend σ] (o : Outlook σ α) (b : Binder α) (mode : Mode) (e : QueryError) :
    Accounted honest o o [.on o.store b mode (.error e)] [] where
  exchanges := ⟨[], (List.append_nil _).symm, rfl, rfl⟩
  single := rfl
  fanOut := rfl
  violations_le := Nat.le_refl _
  violations_eq _ := rfl

theorem promise (o : Outlook σ α) {p : Promise α} (hp : honest → p.violates = false) :
    Accounted honest o (o.promise p) [] [] where
  exchanges := ⟨[], (List.append_nil _).symm, rfl, rfl⟩
  single := rfl
  fanOut := rfl
  violations_le := by
    show o.totals.violations + o.violating ≤
      o.totals.violations + (o.promises ++ [p]).countP Promise.violates
    rw [List.countP_append, violating]
    omega
  violations_eq hhonest := by
    show o.totals.violations + o.violating =
      o.totals.violations + (o.promises ++ [p]).countP Promise.violates
    rw [List.countP_append, List.countP_singleton,
      if_neg (by rw [hp hhonest]; exact Bool.false_ne_true), Nat.add_zero, violating]

/-- A promise that is replaced is accounted for if its violation is promised again or handed
    over. -/
theorem put (o : Outlook σ α) {t : Nat} {p new : Promise α} (hp : o.promises[t]? = some p)
    {results : List (Except QueryError (Answer α))}
    (hle : p.violates.toNat ≤ new.violates.toNat + results.countP violates)
    (heq : honest → p.violates.toNat = new.violates.toNat + results.countP violates) :
    Accounted honest o (o.put t new) [] results := by
  obtain ⟨hlt, hget⟩ := List.getElem?_eq_some_iff.mp hp
  have hviolating : (o.put t new).violating + p.violates.toNat =
      o.violating + new.violates.toNat := by
    have hset : (o.put t new).violating =
        (o.violating - if p.violates then 1 else 0) + if new.violates then 1 else 0 :=
      hget ▸ List.countP_set hlt
    have hpos (h : p.violates = true) : 0 < o.violating :=
      List.countP_pos_iff.mpr ⟨p, List.mem_of_getElem? hp, h⟩
    cases hold : p.violates with
    | true =>
      have := hpos hold
      cases hnew : new.violates <;> simp [hold, hnew] at hset ⊢ <;> omega
    | false => cases hnew : new.violates <;> simp [hold, hnew] at hset ⊢ <;> omega
  refine ⟨⟨[], (List.append_nil _).symm, rfl, rfl⟩, rfl, rfl, ?_, fun hhonest => ?_⟩
  · show o.totals.violations + o.violating ≤ o.totals.violations + (o.put t new).violating + _
    omega
  · have := heq hhonest
    show o.totals.violations + o.violating = o.totals.violations + (o.put t new).violating + _
    omega

theorem take (o : Outlook σ α) {t : Nat} {p : Promise α} (hp : o.promises[t]? = some p) :
    Accounted honest o (o.take t) [] p.result?.toList := by
  have hresult : p.violates.toNat =
      (Promise.taken : Promise α).violates.toNat + p.result?.toList.countP violates := by
    cases p with
    | result r =>
      show (violates r).toNat = 0 + [r].countP violates
      rw [List.countP_singleton]
      cases violates r <;> rfl
    | walk mapper statements => rfl
    | taken => rfl
  exact put o hp hresult.le fun _ => hresult

section Executions

variable [Backend σ]

/-- Statements that are issued and settled are accounted for by their exchanges, and a
    violation that is counted by a promise or by a result. -/
theorem settle (o : Outlook σ α) {statements : List BoundStatement} {s : Settlement α}
    (hfailures : s.failures = (trace o.store statements).countP Exchange.fails)
    {added : List (Promise α)} {results : List (Except QueryError (Answer α))}
    (hle : s.surplus.isSome.toNat ≤ added.countP Promise.violates + results.countP violates)
    (heq : honest →
      s.surplus.isSome.toNat = added.countP Promise.violates + results.countP violates) :
    Accounted honest o
      { (o.issue statements).count s with promises := o.promises ++ added } [] results := by
  have hsurplus : (if s.surplus.isSome = true then 1 else 0) = s.surplus.isSome.toNat := by
    cases s.surplus <;> rfl
  have hlength : (trace o.store statements).length = statements.length := by
    rw [← List.length_map Exchange.statement, map_statement_trace]
  refine ⟨⟨trace o.store statements, rfl, ?_, ?_⟩, rfl, rfl, ?_, fun hhonest => ?_⟩
  · rw [hlength]
    rfl
  · rw [← hfailures]
    rfl
  · show o.totals.violations + (if s.surplus.isSome = true then 1 else 0) + o.violating ≤
      o.totals.violations + (o.promises ++ added).countP Promise.violates + _
    rw [hsurplus, List.countP_append, violating]
    omega
  · have := heq hhonest
    show o.totals.violations + (if s.surplus.isSome = true then 1 else 0) + o.violating =
      o.totals.violations + (o.promises ++ added).countP Promise.violates + _
    rw [hsurplus, List.countP_append, violating]
    omega

variable [Tabled σ]

/-- A gathering that is left is accounted for by what it is bound to count and report. -/
theorem gather (o : Outlook σ α) {statements : List BoundStatement} {g : Gathering α}
    (hg : g.outcomes = (trace o.store statements).map Exchange.outcome)
    (hmapper : honest → g.mapper.ReportsNoViolation) :
    Accounted honest o (((o.issue statements).count g.settle).promise (.result g.settle.result))
        [] [] ∧
      Accounted honest o ((o.issue statements).count g.settle) [] [g.settle.result] := by
  have hle : g.settle.surplus.isSome.toNat ≤ [g.settle.result].countP violates := by
    rw [List.countP_singleton]
    cases hs : g.settle.surplus.isSome with
    | false => exact Nat.zero_le _
    | true =>
      rw [if_pos (Gathering.violates_of_surplus hs)]
      exact Nat.le_refl 1
  have heq (hhonest : honest) :
      g.settle.surplus.isSome.toNat = [g.settle.result].countP violates := by
    rw [List.countP_singleton, Gathering.violates_settle (hmapper hhonest)]
    cases g.settle.surplus.isSome <;> rfl
  have hpromised : [Promise.result g.settle.result].countP Promise.violates =
      [g.settle.result].countP violates := rfl
  constructor
  · refine settle o (Gathering.failures_of_trace hg) ?_ fun hhonest => ?_
    · rw [hpromised]
      exact hle
    · rw [hpromised]
      exact heq hhonest
  · have hhanded : Accounted honest o { (o.issue statements).count g.settle with
        promises := o.promises ++ [] } [] [g.settle.result] := by
      refine settle o (Gathering.failures_of_trace hg) ?_ fun hhonest => ?_
      · rw [List.countP_nil, Nat.zero_add]
        exact hle
      · rw [List.countP_nil, Nat.zero_add]
        exact heq hhonest
    rw [List.append_nil] at hhanded
    exact hhanded

/-- To start an execution. -/
theorem start (o : Outlook σ α) {b : Binder α} (mode : Mode)
    {state : Except QueryError RotationState}
    (hmapper : honest → b.query.mapper.ReportsNoViolation)
    (hstate : honest → ∀ e, state = .error e → e.code ≠ .cardinalityViolation) :
    Accounted honest o (o.start b.query mode (b.plan mode state))
      [.on o.store b mode (b.plan mode state)] [] := by
  cases hplan : b.plan mode state with
  | error e =>
    exact (refused o b mode e).trans
      (promise o fun hhonest => Binder.violates_plan (hstate hhonest) hplan)
  | ok plan =>
    have haccept : Accounted honest o (o.accept plan) [.on o.store b mode (.ok plan)] [] :=
      accept o hplan
    cases hwalks : b.query.walks mode plan with
    | true =>
      rw [o.start_of_walks hwalks]
      exact haccept.trans (promise _ fun _ => rfl)
    | false =>
      rw [o.start_of_not_walks hwalks]
      exact haccept.trans
        (gather (o.accept plan) (Gathering.outcomes_on o.store b.query mode plan) hmapper).1

/-- To execute on the calling thread. -/
theorem call (o : Outlook σ α) {b : Binder α} {mode : Mode}
    {state : Except QueryError RotationState}
    (hmapper : honest → b.query.mapper.ReportsNoViolation)
    (hstate : honest → ∀ e, state = .error e → e.code ≠ .cardinalityViolation) :
    Accounted honest o (o.call b.query (b.plan mode state)).2
      [.on o.store b mode (b.plan mode state)]
      [(o.call b.query (b.plan mode state)).1] := by
  cases hplan : b.plan mode state with
  | error e =>
    exact (refused o b mode e).hand fun hhonest => Binder.violates_plan (hstate hhonest) hplan
  | ok plan =>
    have haccept : Accounted honest o (o.accept plan) [.on o.store b mode (.ok plan)] [] :=
      accept o hplan
    simp only [Outlook.call]
    cases plan.statements with
    | nil => exact haccept.hand fun _ => rfl
    | cons statement rest => exact haccept.trans (gather (o.accept plan) rfl hmapper).2

omit [Tabled σ] in
theorem turn (o : Outlook σ α) {t : Nat} (hmapper : honest → ∀ mapper statements,
      o.promises[t]? = some (.walk mapper statements) → mapper.ReportsNoViolation) :
    Accounted honest o (o.turn t) [] [] := by
  unfold Outlook.turn
  split
  · rename_i mapper statement rest hp
    let x := Exchange.on o.store statement
    let work := Gathering.ofStep mapper x.response
    have hwork : work.settle =
        { result := (x.read mapper).map .item, failures := if x.fails then 1 else 0 } :=
      Gathering.settle_ofStep mapper x
    have hfailures : work.settle.failures = (trace o.store [statement]).countP Exchange.fails := by
      rw [hwork]
      exact (List.countP_singleton (p := Exchange.fails) (a := x)).symm
    have hsettle : Accounted honest o { (o.issue [statement]).count work.settle with
        promises := o.promises ++ [] } [] [] :=
      settle o hfailures (by rw [hwork]; exact Nat.zero_le _) fun _ => by rw [hwork]; rfl
    rw [List.append_nil] at hsettle
    have hnew (hhonest : honest) : (Promise.ofResponse work rest).violates = false := by
      unfold Promise.ofResponse
      split
      · rfl
      · show violates work.settle.result = false
        rw [Gathering.violates_settle (hmapper hhonest mapper _ hp), hwork]
        rfl
    have hput : Accounted honest ((o.issue [statement]).count work.settle)
        (((o.issue [statement]).count work.settle).put t (.ofResponse work rest)) [] [] := by
      refine put ((o.issue [statement]).count _) hp (Nat.zero_le _) fun hhonest => ?_
      rw [hnew hhonest]
      rfl
    exact hsettle.trans hput
  · rename_i mapper hp
    exact put o hp (Nat.zero_le _) fun _ => rfl
  · exact of_eq rfl rfl rfl

omit [Tabled σ] in
theorem wait (o : Outlook σ α) {t : Nat} (hmapper : honest → ∀ mapper statements,
      o.promises[t]? = some (.walk mapper statements) → mapper.ReportsNoViolation) :
    Accounted honest o (o.wait t).2 [] [(o.wait t).1] := by
  have htaken : Accounted honest o o [] [(.error (.worker .resultTaken) : Except _ (Answer α))] :=
    (of_eq rfl rfl rfl).hand fun _ => rfl
  unfold Outlook.wait
  cases hp : o.promises[t]? with
  | none => exact htaken
  | some p =>
    cases p with
    | taken => exact htaken
    | result r => exact take o hp
    | walk mapper statements =>
      have hvisited : (walked mapper o.store statements).failures =
          (trace o.store (visited mapper o.store statements)).countP Exchange.fails := by
        rw [trace_visited]
        rfl
      have hwalk : Accounted honest o { (o.issue (visited mapper o.store statements)).count
          (walked mapper o.store statements) with promises := o.promises ++ [] } [] [] :=
        settle o hvisited (Nat.zero_le _) fun _ => rfl
      rw [List.append_nil] at hwalk
      have htake := hwalk.trans (take _ hp)
      exact htake.hand fun hhonest => violates_walked (hmapper hhonest mapper statements hp) _ _

/-- To execute. -/
theorem serve (o : Outlook σ α) {b : Binder α} (mode : Mode)
    {state : Except QueryError RotationState}
    (hmapper : honest → b.query.mapper.ReportsNoViolation)
    (hstate : honest → ∀ e, state = .error e → e.code ≠ .cardinalityViolation) :
    Accounted honest o (o.serve b.query mode (b.plan mode state)).2
      [.on o.store b mode (b.plan mode state)]
      [(o.serve b.query mode (b.plan mode state)).1] := by
  unfold Outlook.serve
  split_ifs
  · exact call o hmapper hstate
  · obtain ⟨p, hpromises, hwalk⟩ := o.exists_promises_start b.query mode (b.plan mode state)
    refine (start o mode hmapper hstate).trans (wait _ fun hhonest mapper statements hp => ?_)
    rw [hpromises, List.getElem?_concat_length] at hp
    rw [hwalk mapper statements (Option.some.inj hp)]
    exact hmapper hhonest

end Executions

end Accounted

end Outlook

theorem Engine.violating_outlook (e : Engine σ α) :
    e.outlook.violating = (e.tasks.filterMap fun task => task.promise.result?).countP violates := by
  rw [Outlook.violating, outlook, List.countP_map, List.countP_filterMap]
  refine List.countP_congr fun task _ => ?_
  show task.promise.result?.any violates = true ↔ _
  cases task.promise.result? with
  | none => exact Iff.rfl
  | some r => exact Iff.rfl

/-! ## Accounts of a run -/

namespace Client

/-- Neither the binders nor the walks that are left report violations of their own. -/
structure Honest (c : Client σ α) : Prop where
  numbered : c.Numbered
  binders : ∀ b ∈ c.binders, b.query.ReportsNoViolation
  walks : ∀ (t : Nat) mapper statements,
    c.engine.outlook.promises[t]? = some (.walk mapper statements) → mapper.ReportsNoViolation

variable [Backend σ]

/-- Every command is accounted for when it is taken. -/
theorem accounted_step [Tabled σ] (c : Client σ α) (command : Command σ α) {honest : Prop}
    (h : honest → c.Honest) :
    Outlook.Accounted honest c.engine.outlook (c.step command).2.engine.outlook
      (c.invocation? command).toList (c.step command).1.result?.toList := by
  have hidle : Outlook.Accounted honest c.engine.outlook c.engine.outlook [] [] :=
    .of_eq rfl rfl rfl
  have hforesee : Outlook.Accounted honest c.engine.outlook (c.foresee command).2
      (c.invocation? command).toList (c.foresee command).1.toList := by
    cases command with
    | alterStore change => exact .of_eq rfl rfl rfl
    | setClock now => exact hidle
    | readState query => exact hidle
    | readPlan query => exact hidle
    | openBinder query => exact hidle
    | adjust k change => exact hidle
    | takeLog => exact hidle
    | wait t =>
      exact .wait _ fun hhonest mapper statements hp =>
        (h hhonest).walks t mapper statements hp
    | turn t =>
      exact .turn _ fun hhonest mapper statements hp =>
        (h hhonest).walks t mapper statements hp
    | execute k mode =>
      simp only [foresee, invocation?]
      cases hb : c.binders[k]? with
      | none => exact hidle
      | some b =>
        have hquery (hhonest : honest) := (h hhonest).binders b (List.mem_of_getElem? hb)
        exact .serve _ mode (fun hhonest => (hquery hhonest).mapper)
          fun hhonest => (hquery hhonest).source _
    | start k mode =>
      simp only [foresee, invocation?]
      cases hb : c.binders[k]? with
      | none => exact hidle
      | some b =>
        have hquery (hhonest : honest) := (h hhonest).binders b (List.mem_of_getElem? hb)
        exact .start _ mode (fun hhonest => (hquery hhonest).mapper)
          fun hhonest => (hquery hhonest).source _
  rw [← step_outlook] at hforesee
  exact hforesee

/-- Where queries that report no violations of their own are opened, no walk is left that does. -/
theorem Honest.step {c : Client σ α} (h : c.Honest) {command : Command σ α}
    (hopen : ∀ q, command.opened? = some q → q.ReportsNoViolation) :
    (c.step command).2.Honest := by
  have hbinders (k : Nat) (b : Binder α) (hb : (c.step command).2.binders[k]? = some b) :
      b.id = k ∧ b.query.ReportsNoViolation := by
    rw [step_binders h.numbered] at hb
    rcases Command.onBinders_cases hb with ⟨b', hb', hcalled⟩ | ⟨q, hq, -, rfl⟩
    · have hid := h.numbered k b' hb'
      have hquery := h.binders b' (List.mem_of_getElem? hb')
      rcases hcalled with rfl | ⟨call, rfl⟩
      · exact ⟨hid, hquery⟩
      · exact ⟨(b'.id_call call).trans hid, by rw [Binder.query_call]; exact hquery⟩
    · exact ⟨rfl, hopen q hq⟩
  refine ⟨fun k b hb => (hbinders k b hb).1, fun b hb => ?_, ?_⟩
  · obtain ⟨k, hk⟩ := List.mem_iff_getElem?.mp hb
    exact (hbinders k b hk).2
  · intro t mapper statements ht
    have houtlook : (c.step command).2.engine.outlook = (c.foresee command).2 :=
      congrArg Prod.snd (c.step_outlook command)
    rw [houtlook] at ht
    cases command with
    | alterStore change => exact h.walks t mapper statements ht
    | setClock now => exact h.walks t mapper statements ht
    | readState query => exact h.walks t mapper statements ht
    | readPlan query => exact h.walks t mapper statements ht
    | openBinder query => exact h.walks t mapper statements ht
    | adjust k change => exact h.walks t mapper statements ht
    | takeLog => exact h.walks t mapper statements ht
    | wait task => exact h.walks t mapper statements (Outlook.walk_of_wait ht)
    | turn task =>
      obtain ⟨before, hbefore⟩ := Outlook.walk_of_turn ht
      exact h.walks t mapper before hbefore
    | execute k mode =>
      simp only [foresee] at ht
      cases hb : c.binders[k]? with
      | none =>
        rw [hb] at ht
        exact h.walks t mapper statements ht
      | some b =>
        rw [hb] at ht
        rcases Outlook.walk_of_serve ht with hold | rfl
        · exact h.walks t mapper statements hold
        · exact (h.binders b (List.mem_of_getElem? hb)).mapper
    | start k mode =>
      simp only [foresee] at ht
      cases hb : c.binders[k]? with
      | none =>
        rw [hb] at ht
        exact h.walks t mapper statements ht
      | some b =>
        rw [hb] at ht
        rcases Outlook.walk_of_start ht with hold | rfl
        · exact h.walks t mapper statements hold
        · exact (h.binders b (List.mem_of_getElem? hb)).mapper

/-- A run is accounted for by its executions and by the results that it hands over. -/
theorem accounted_run [Tabled σ] (c : Client σ α) (commands : List (Command σ α)) {honest : Prop}
    (h : honest → c.Honest)
    (hopen : honest → ∀ q, .openBinder q ∈ commands → q.ReportsNoViolation) :
    Outlook.Accounted honest c.engine.outlook (c.run commands).2.engine.outlook
      (c.invocations commands) ((c.run commands).1.filterMap Reply.result?) := by
  induction commands generalizing c with
  | nil => exact .of_eq rfl rfl rfl
  | cons command rest ih =>
    have hopened (hhonest : honest) (q : Query α) (hq : command.opened? = some q) :
        q.ReportsNoViolation := by
      refine hopen hhonest q ?_
      cases command with
      | openBinder query =>
        cases hq
        exact List.mem_cons_self
      | _ => cases hq
    have hrest := ih (c.step command).2 (fun hhonest => (h hhonest).step (hopened hhonest))
      fun hhonest q hq => hopen hhonest q (List.mem_cons_of_mem _ hq)
    have hresults : (c.run (command :: rest)).1.filterMap Reply.result? =
        (c.step command).1.result?.toList ++
          ((c.step command).2.run rest).1.filterMap Reply.result? := by
      rw [run_cons, List.filterMap_cons]
      cases (c.step command).1.result? <;> rfl
    rw [hresults]
    exact (c.accounted_step command h).trans hrest

theorem stats_of_refused (c : Client σ α) {command : Command σ α} {i : Invocation α}
    (h : c.invocation? command = some i) {e : QueryError} (hplan : i.plan = .error e) :
    (c.step command).2.engine.stats = c.engine.stats := by
  cases command with
  | execute k mode =>
    obtain ⟨b, hb, rfl⟩ := Option.map_eq_some_iff.mp h
    obtain ⟨-, -, hstats, -, -⟩ := c.engine.serve_rejected b.query mode e
    simp only [step, hb]
    show (c.execute b mode).2.engine.stats = _
    rw [(c.execute_of_planned hplan).2, hstats]
  | start k mode =>
    obtain ⟨b, hb, rfl⟩ := Option.map_eq_some_iff.mp h
    simp only [step, hb]
    show (c.start b mode).engine.stats = _
    rw [c.start_of_planned hplan]
    rfl
  | _ => cases h

/-- The counters of a client that starts afresh, once everything that it has issued has been
    settled. Its requests are the statements in the log of the store, its failures those that
    the store answered with one. The executions that had a plan are counted by whether a rule
    of selection picked a single shard. A violation is counted for each read for at most one
    object that finds several. No more violations are counted than are results, and just as
    many if there are no others than those that the engine finds. An execution that is refused
    changes no counter. -/
theorem accounts (store : MemoryStore) (systemClock : Instant)
    (commands : List (Command MemoryStore α)) :
    let start : Client MemoryStore α := .fresh store systemClock
    let c := (start.run commands).2
    let executions := start.invocations commands
    let results := (start.run commands).1.filterMap Reply.result? ++
      c.engine.tasks.filterMap fun task => task.promise.result?
    (∀ task ∈ c.engine.tasks, task.isOutstanding = false) →
    c.engine.stats.requests = c.engine.connection.sent.length ∧
    c.engine.stats.failures = c.engine.connection.exchanges.countP Exchange.fails ∧
    c.engine.stats.single + c.engine.stats.fanOut = executions.countP Invocation.isAccepted ∧
    c.engine.stats.single = executions.countP Invocation.isSingle ∧
    c.engine.stats.violations = executions.countP Invocation.isSurplus ∧
    c.engine.stats.violations ≤ results.countP violates ∧
    ((∀ q, .openBinder q ∈ commands → q.ReportsNoViolation) →
      c.engine.stats.violations = results.countP violates) ∧
    ∀ before command i e, (start.run before).2.invocation? command = some i →
      i.plan = .error e →
      ((start.run before).2.step command).2.engine.stats = (start.run before).2.engine.stats := by
  intro start c executions results hsettled
  have hfresh : start.Honest :=
    ⟨by rintro k b ⟨⟩, by rintro b ⟨⟩, by rintro t mapper statements ⟨⟩⟩
  have haccounts : Outlook.Accounted (∀ q, .openBinder q ∈ commands → q.ReportsNoViolation)
      start.engine.outlook c.engine.outlook executions
      ((start.run commands).1.filterMap Reply.result?) :=
    start.accounted_run commands (fun _ => hfresh) fun hhonest => hhonest
  have htotals : c.engine.outlook.totals = c.engine.stats := Engine.totals_eq_stats hsettled
  have hresults : results.countP violates = c.engine.outlook.violating +
      ((start.run commands).1.filterMap Reply.result?).countP violates := by
    rw [List.countP_append, Nat.add_comm, Engine.violating_outlook]
  obtain ⟨xs, hxs, hrequests, hfailures⟩ := haccounts.exchanges
  have hexchanges : c.engine.connection.exchanges = xs := hxs
  have hsingle := haccounts.single
  have hfanOut := haccounts.fanOut
  have hle := haccounts.violations_le
  have hstart : start.engine.outlook = ⟨store, [], {}, []⟩ := rfl
  rw [htotals, hstart] at hrequests hfailures hsingle hfanOut hle
  simp only [Nat.zero_add, Outlook.violating, List.countP_nil, Nat.add_zero]
    at hrequests hfailures hsingle hfanOut hle
  refine ⟨?_, ?_, ?_, hsingle, ?_, ?_, fun hhonest => ?_, ?_⟩
  · rw [hrequests, Connection.sent, List.length_map, hexchanges]
  · rw [hfailures, hexchanges]
  · rw [Invocation.countP_isAccepted, hsingle, hfanOut]
  · rw [← htotals]
    exact (start.violations_run commands).trans (Nat.zero_add _)
  · rw [hresults]
    exact hle
  · have heq := haccounts.violations_eq hhonest
    rw [htotals, hstart] at heq
    simp only [Nat.zero_add, Outlook.violating, List.countP_nil, Nat.add_zero] at heq
    rw [hresults]
    exact heq
  · intro before command i e h hplan
    exact stats_of_refused _ h hplan

/-- The first two hours have an event each. -/
def twoHours : MemoryStore := ⟨[{ events := [⟨"a", "1"⟩] }, { events := [⟨"b", "2"⟩] }, {}]⟩

/-- A read for the only event is started, and waited for once the second hour has been lost,
    all events have been read, a mode has been tried that cannot merge, and a walk has gone
    from the third hour to the second by turns. -/
def mixed : List (Command MemoryStore Event) :=
  [.openBinder Ledger.keyRead, .start 0 .atMostOne, .alterStore (·.fail 1 "table lost"),
    .execute 0 .all, .execute 0 .async, .start 0 .one, .turn 3, .turn 3, .turn 3, .wait 0]

/-- Three executions had a plan, for three shards each, of which the walk did without the last.
    Two statements failed, and one result was that there were two events. -/
theorem accounts_mixed :
    ((fresh twoHours (.ofMillis 10000000)).run mixed).2.engine.stats =
        { fanOut := 3, requests := 8, violations := 1, failures := 2 } ∧
      ((fresh twoHours (.ofMillis 10000000)).run mixed).1[9]? =
        some (.result (.error
          (.cardinalityViolation "SELECT key, payload FROM events WHERE key = ?" 2))) := by
  have hsettled : ∀ task ∈ ((fresh twoHours (.ofMillis 10000000)).run mixed).2.engine.tasks,
      task.isOutstanding = false := by
    have htasks : ((fresh twoHours (.ofMillis 10000000)).run mixed).2.engine.tasks =
        [.taken, .taken, .taken, .settled (.error (.backend (.reported "table lost")))] := rfl
    rw [htasks]
    simp [Task.isOutstanding]
  have hhonest : ∀ q, .openBinder q ∈ mixed → q.ReportsNoViolation := by
    intro q hq
    obtain rfl : q = Ledger.keyRead := by simpa [mixed] using hq
    exact Query.reportsNoViolation_of_events rfl
      (Definition.build_source (d := Ledger.eventByKey) rfl (by rintro source ⟨⟩))
  obtain ⟨hrequests, hfailures, hsum, hsingle, -, -, hviolations, -⟩ :=
    accounts twoHours (.ofMillis 10000000) mixed hsettled
  have hviolations : _ = 1 := hviolations hhonest
  have hrequests : _ = 8 := hrequests
  have hfailures : _ = 2 := hfailures
  have hsingle : _ = 0 := hsingle
  have hsum : _ = 3 := hsum
  refine ⟨?_, rfl⟩
  generalize ((fresh twoHours (.ofMillis 10000000)).run mixed).2.engine.stats = s at *
  obtain ⟨single, fanOut, requests, violations, failures⟩ := s
  simp only at hrequests hfailures hsum hsingle hviolations
  rw [Statistics.mk.injEq]
  exact ⟨hsingle, by omega, hrequests, hviolations, hfailures⟩

/-- Events of which no shard may have more than one. -/
def oneByShard : RowMapper Event :=
  { decodeMany := fun rows => do
      let events ← Event.mapper.decodeMany rows
      if 1 < events.length then .error (.cardinalityViolation "a single shard" events.length)
      else .ok events }

/-- The read by key for such events. -/
def keyReadByShard : Query Event :=
  ({ Ledger.eventByKey with mapper := oneByShard } : Definition Event).build.toOption.get rfl

/-- The first hour has two events. -/
def crowdedHour : MemoryStore := ⟨[{ events := [⟨"a", "1"⟩, ⟨"b", "2"⟩] }, {}, {}]⟩

/-- The read for all events. -/
def crowded : List (Command MemoryStore Event) := [.openBinder keyReadByShard, .execute 0 .all]

/-- That there are too many objects can be the finding of a mapper, too. It is the result then,
    and is not counted. -/
theorem accounts_oneByShard :
    let start : Client MemoryStore Event := .fresh crowdedHour (.ofMillis 10000000)
    let c := (start.run crowded).2
    let results := (start.run crowded).1.filterMap Reply.result? ++
      c.engine.tasks.filterMap fun task => task.promise.result?
    (∀ task ∈ c.engine.tasks, task.isOutstanding = false) ∧
      c.engine.stats.violations = 0 ∧
      results = [.error (.cardinalityViolation "a single shard" 2)] ∧
      results.countP violates = 1 := by
  have htasks : ((fresh crowdedHour (.ofMillis 10000000)).run crowded).2.engine.tasks =
      [.taken] := rfl
  have hsettled : ∀ task ∈ ((fresh crowdedHour (.ofMillis 10000000)).run crowded).2.engine.tasks,
      task.isOutstanding = false := by
    rw [htasks]
    exact List.forall_mem_singleton.mpr rfl
  have hcounted : ((fresh crowdedHour (.ofMillis 10000000)).run
      crowded).2.engine.outlook.totals.violations = 0 := violations_run _ crowded
  exact ⟨hsettled, Engine.totals_eq_stats hsettled ▸ hcounted, rfl, rfl⟩

end Client

end RotatedShards
