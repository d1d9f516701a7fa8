import RotatedShards.Proofs.Execution.Exchanges

/-!
# Growth of an engine

What an engine can add to its record. It only ever issues statements of the plan that it is
given, or what is left of a walk that was started earlier, and it never forgets an exchange.
A walk is left only by an execution, with the statements of its plan.

Results:
* `Engine.Grows.turn`: what a turn adds.
* `Engine.Grows.start`, `Engine.Grows.call`, `Engine.Grows.wait`: what the steps of an
  execution add.
* `Engine.Grows.serve`: what an execution adds.
-/

namespace RotatedShards

variable {σ α : Type}

/-! ## Statements left -/

namespace Task

/-- The statements that a walk has not issued. -/
def rest : Task α → List BoundStatement
  | .walking _ statements => statements
  | .asking _ _ statements => statements
  | _ => []

theorem rest_begin (now : Nat) (task : Task α) : (task.begin now).rest = task.rest := by
  cases task <;> rfl

theorem mem_rest_of_ofResponse {work : Gathering α} {rest : List BoundStatement}
    {s : BoundStatement} (h : s ∈ (ofResponse work rest).rest) : s ∈ rest := by
  unfold ofResponse at h
  split at h
  · exact h
  · cases h

theorem mem_rest_of_pass {time : Nat} {task : Task α} {s : BoundStatement}
    (h : s ∈ (task.pass time).rest) : s ∈ task.rest := by
  cases task with
  | running work due =>
    rw [pass] at h
    split_ifs at h <;> cases h
  | asking work due rest =>
    rw [pass] at h
    split_ifs at h
    · exact mem_rest_of_ofResponse h
    · exact h
  | queued work => cases h
  | rejected error => cases h
  | walking mapper statements => exact h
  | settled result => cases h
  | taken => cases h

end Task

namespace Engine

variable {P : BoundStatement → Prop} {n : Nat} {e e' e'' : Engine σ α}

/-- A statement that a walk of the engine has not issued. -/
def Leaves (e : Engine σ α) (t : Nat) (s : BoundStatement) : Prop :=
  ∃ task, e.tasks[t]? = some task ∧ s ∈ task.rest

/-- The engine has issued further statements, which all have a property, and has `n` more
    tasks. What is left of a walk was left of it before, or the walk is one of these tasks
    and the statement has that property. -/
structure Grows (P : BoundStatement → Prop) (n : Nat) (e e' : Engine σ α) : Prop where
  sent : ∃ added, e'.connection.sent = e.connection.sent ++ added ∧ ∀ s ∈ added, P s
  length_tasks : e'.tasks.length = e.tasks.length + n
  leaves : ∀ t s, e'.Leaves t s → e.Leaves t s ∨ e.tasks.length ≤ t ∧ P s

namespace Grows

theorem trans {m : Nat} (h : Grows P n e e') (h' : Grows P m e' e'') :
    Grows P (n + m) e e'' where
  sent := by
    obtain ⟨added, hsent, hadded⟩ := h.sent
    obtain ⟨added', hsent', hadded'⟩ := h'.sent
    refine ⟨added ++ added', by rw [hsent', hsent, List.append_assoc], fun s hs => ?_⟩
    rcases List.mem_append.mp hs with hs | hs
    · exact hadded s hs
    · exact hadded' s hs
  length_tasks := by rw [h'.length_tasks, h.length_tasks, Nat.add_assoc]
  leaves t s ht := by
    rcases h'.leaves t s ht with ht | ⟨hle, hs⟩
    · exact h.leaves t s ht
    · have := h.length_tasks
      exact Or.inr ⟨by omega, hs⟩

/-! ### Tasks that go on -/

/-- It is enough that statements with the property are issued and that tasks only go on,
    each of them with no statement that was not left to it before. -/
theorem of_map {f : Task α → Task α} (htasks : e'.tasks = e.tasks.map f)
    (hf : ∀ task, ∀ s ∈ (f task).rest, s ∈ task.rest) {added : List BoundStatement}
    (hsent : e'.connection.sent = e.connection.sent ++ added) (hadded : ∀ s ∈ added, P s) :
    Grows P 0 e e' where
  sent := ⟨added, hsent, hadded⟩
  length_tasks := by rw [htasks, List.length_map, Nat.add_zero]
  leaves t s := by
    rintro ⟨later, hlater, hs⟩
    rw [htasks, List.getElem?_map, Option.map_eq_some_iff] at hlater
    obtain ⟨task, htask, rfl⟩ := hlater
    exact Or.inl ⟨task, htask, hf task s hs⟩

theorem of_sent (htasks : e'.tasks = e.tasks) {added : List BoundStatement}
    (hsent : e'.connection.sent = e.connection.sent ++ added) (hadded : ∀ s ∈ added, P s) :
    Grows P 0 e e' :=
  of_map (htasks.trans (List.map_id _).symm) (fun _ _ h => h) hsent hadded

theorem of_eq (htasks : e'.tasks = e.tasks)
    (hsent : e'.connection.sent = e.connection.sent) : Grows P 0 e e' :=
  of_sent htasks (hsent.trans (List.append_nil _).symm) (by simp)

theorem begin (e : Engine σ α) : Grows P 0 e e.begin :=
  of_map rfl (fun task _ h => task.rest_begin e.time ▸ h) (List.append_nil _).symm (by simp)

theorem advance (e : Engine σ α) (time : Nat) : Grows P 0 e (e.advance time) :=
  of_map rfl (fun _ _ => Task.mem_rest_of_pass) (List.append_nil _).symm (by simp)

/-- A task that replaces another one has no statements left but those of the other. -/
theorem put (e : Engine σ α) {t : Nat} {new : Task α} (h : ∀ s ∈ new.rest, e.Leaves t s) :
    Grows P 0 e (e.put t new) where
  sent := ⟨[], (List.append_nil _).symm, by simp⟩
  length_tasks := List.length_set
  leaves t' s := by
    rintro ⟨task, htask, hs⟩
    rw [Engine.put, List.getElem?_set] at htask
    split_ifs at htask with heq hlt
    · cases htask
      exact Or.inl (heq ▸ h s hs)
    · exact Or.inl ⟨task, htask, hs⟩

theorem enqueue (e : Engine σ α) {task : Task α} (h : ∀ s ∈ task.rest, P s) :
    Grows P 1 e (e.enqueue task) where
  sent := ⟨[], (List.append_nil _).symm, by simp⟩
  length_tasks := List.length_append
  leaves t s := by
    rintro ⟨later, hlater, hs⟩
    rw [Engine.enqueue, List.getElem?_append] at hlater
    split_ifs at hlater with hlt
    · exact Or.inl ⟨later, hlater, hs⟩
    · obtain rfl := List.mem_singleton.mp (List.mem_of_getElem? hlater)
      exact Or.inr ⟨by omega, h s hs⟩

/-! ### Executions -/

section Executions

variable [Backend σ]

/-- A walk that proceeds issues the first statement that is left of it. -/
theorem proceed (e : Engine σ α) (t : Nat) (h : ∀ s, e.Leaves t s → P s) :
    Grows P 0 e (e.proceed t) := by
  unfold Engine.proceed
  split
  · rename_i mapper statement rest htask
    have hsend : Grows P 0 e (e.send statement).2 :=
      of_sent rfl List.map_append
        (List.forall_mem_singleton.mpr (h statement ⟨_, htask, List.mem_cons_self⟩))
    refine hsend.trans (put _ fun s hs => ⟨_, htask, ?_⟩)
    exact List.mem_cons_of_mem statement hs
  · exact put e (by rintro s ⟨⟩)
  · exact of_eq rfl rfl

/-- A turn issues no statement but what is left of the walk that has it. -/
theorem turn (e : Engine σ α) (t : Nat) (h : ∀ s, e.Leaves t s → P s) :
    Grows P 0 e (e.turn t) := by
  unfold Engine.turn
  split
  · have hadvance := fun time => (begin (P := P) e).trans (advance e.begin time)
    refine (hadvance _).trans (proceed _ t fun s hs => ?_)
    rcases (hadvance _).leaves t s hs with hleft | ⟨-, hs⟩
    · exact h s hleft
    · exact hs
  · exact of_eq rfl rfl

/-- Starting a plan issues its statements or leaves a walk through them. -/
theorem start (e : Engine σ α) (q : Query α) (mode : Mode) {plan : Except QueryError Plan}
    (h : ∀ p, plan = .ok p → ∀ s ∈ p.statements, P s) : Grows P 1 e (e.start q mode plan) := by
  cases plan with
  | error error => exact enqueue e (by rintro _ ⟨⟩)
  | ok p =>
    cases hwalks : q.walks mode p with
    | true =>
      rw [start_of_walks e q mode p hwalks]
      have haccept : Grows P 0 e (e.accept q.text p) := of_eq rfl rfl
      refine haccept.trans (enqueue _ ?_)
      exact h p rfl
    | false =>
      rw [start_of_not_walks e q mode p hwalks]
      obtain ⟨-, hexchanges, htasks⟩ := (e.accept q.text p).sendAll_spec p.statements
      have hsent : ((e.accept q.text p).sendAll p.statements).2.connection.sent =
          e.connection.sent ++ p.statements := by
        rw [Connection.sent, hexchanges, List.map_append, map_statement_trace]
        rfl
      have hsend : Grows P 0 e ((e.accept q.text p).sendAll p.statements).2 :=
        of_sent htasks hsent (h p rfl)
      exact hsend.trans (enqueue _ (by rintro _ ⟨⟩))

/-- A call on the calling thread issues statements of its plan only. -/
theorem call (e : Engine σ α) (q : Query α) {plan : Except QueryError Plan}
    (h : ∀ p, plan = .ok p → ∀ s ∈ p.statements, P s) : Grows P 0 e (e.call q plan).2 := by
  cases plan with
  | error error => exact of_eq rfl rfl
  | ok p =>
    have hp := h p rfl
    simp only [Engine.call]
    cases hs : p.statements with
    | nil => exact of_eq rfl rfl
    | cons statement rest =>
      rw [hs] at hp
      have hstatement := List.forall_mem_singleton.mpr (hp statement List.mem_cons_self)
      simp only
      split
      · exact of_sent rfl List.map_append hstatement
      · exact of_sent rfl List.map_append hstatement
      · exact of_sent rfl List.map_append hstatement

/-- Waiting issues no statement but what is left of the walk that is waited for. -/
theorem wait (e : Engine σ α) (t : Nat) (h : ∀ s, e.Leaves t s → P s) :
    Grows P 0 e (e.wait t).2 := by
  refine wait_induct (motive := Grows P 0 e) t (of_eq rfl rfl) (fun e' hgrows => ?_)
    fun e' hgrows => hgrows.trans (put e' (by rintro _ ⟨⟩))
  -- what is left of the walk later was left of it at first
  refine hgrows.trans (turn e' t fun s hs => ?_)
  rcases hgrows.leaves t s hs with hleft | ⟨-, hs⟩
  · exact h s hleft
  · exact hs

/-- An execution issues statements of its plan only. -/
theorem serve (e : Engine σ α) (q : Query α) (mode : Mode) {plan : Except QueryError Plan}
    (h : ∀ p, plan = .ok p → ∀ s ∈ p.statements, P s) :
    ∃ n, Grows P n e (e.serve q mode plan).2 := by
  unfold Engine.serve
  split_ifs
  · exact ⟨0, call e q h⟩
  · have hstart := start e q mode h
    refine ⟨1, hstart.trans (wait _ _ fun s hleft => ?_)⟩
    rcases hstart.leaves _ s hleft with ⟨task, hold, -⟩ | ⟨-, hs⟩
    · rw [List.getElem?_eq_none (Nat.le_refl _)] at hold
      cases hold
    · exact hs

end Executions

end Grows

end Engine

end RotatedShards
