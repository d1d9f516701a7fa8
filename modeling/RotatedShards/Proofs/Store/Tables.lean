import Mathlib.Tactic.SplitIfs
import RotatedShards.Proofs.Execution.Exchanges
import RotatedShards.Proofs.ShardId
import RotatedShards.Store.Memory

/-!
# Separate tables

In a store of separate tables, what a statement is answered does not depend on statements
that address other tables. Statements to different tables that are issued one after the
other are then answered as if each of them were the only one.

Results:
* `trace_of_pairwise_apart`: the answers to statements for different tables.
* `MemoryStore.answer_eq`, `MemoryStore.tabled`: the in-memory store has separate tables.
-/

namespace RotatedShards

/-! ## Stores of separate tables -/

/-- Two statements address different tables. -/
def BoundStatement.Apart (s t : BoundStatement) : Prop :=
  ∃ i j, s.shard.tableIndex? = some i ∧ t.shard.tableIndex? = some j ∧ i ≠ j

theorem BoundStatement.apart_of_ne {s t : BoundStatement} {count : Nat}
    (hs : s.shard.addresses count = true) (hs' : s.shard ≠ .noRotation)
    (ht : t.shard.addresses count = true) (ht' : t.shard ≠ .noRotation)
    (hne : s.shard ≠ t.shard) : s.Apart t :=
  ShardId.exists_tableIndex?_of_ne hs hs' ht ht' hne

/-- A store of separate tables: a statement changes no answer but those of the table that it
    addresses, and every answer is rows or a failure. -/
class Tabled (σ : Type) [Backend σ] : Prop where
  answer_of_apart : ∀ (s t : BoundStatement) (store : σ), s.Apart t →
    (Backend.answer s (Backend.answer t store).2).1 = (Backend.answer s store).1
  not_isCrash : ∀ (s : BoundStatement) (store : σ),
    (Backend.answer s store).1.outcome.isCrash = false

section Trace

variable {σ : Type} [Backend σ]

/-- Statements to different tables are answered as if each were the only one. -/
theorem trace_of_pairwise_apart [Tabled σ] (store : σ) {statements : List BoundStatement}
    (h : statements.Pairwise fun t s => s.Apart t) :
    trace store statements = statements.map (Exchange.on store) := by
  induction statements generalizing store with
  | nil => rfl
  | cons t rest ih =>
    obtain ⟨ht, hrest⟩ := List.pairwise_cons.mp h
    show Exchange.on store t :: trace (Backend.answer t store).2 rest = _
    rw [ih _ hrest, List.map_cons]
    congr 1
    refine List.map_congr_left fun s hs => ?_
    rw [Exchange.on, Exchange.on, Tabled.answer_of_apart s t store (ht s hs)]

end Trace

/-! ## The in-memory store -/

namespace MemoryStore

/-- The position of the table that a statement goes to. -/
def target (statement : BoundStatement) : Nat := statement.shard.tableIndex?.getD 0

/-- What a statement is answered by the table that it goes to, if there is one. -/
def responseOf (statement : BoundStatement) : Option EventTable → Response
  | none => { outcome := .failed (.noTable statement.shard) }
  | some table =>
    { delay := min table.latency longestDelay
      outcome :=
        match table.failure with
        | some message => .failed (.reported message)
        | none =>
          if isInsert statement.text then .rows .empty
          else .rows (selected statement.values table.events) }

/-- A statement adds an event to the table that it goes to, unless that one fails. -/
def writes (statement : BoundStatement) : Option EventTable → Bool
  | none => false
  | some table => table.failure.isNone && isInsert statement.text

/-- An answer depends on the table that the statement goes to, and only that one is
    written to. -/
theorem answer_eq (statement : BoundStatement) (s : MemoryStore) :
    answer statement s =
      (responseOf statement s.tables[target statement]?,
        if writes statement s.tables[target statement]?
        then s.insert (target statement) (inserted statement.values) else s) := by
  unfold answer target
  match htable : s.tables[statement.shard.tableIndex?.getD 0]? with
  | none =>
    simp only [htable]
    rfl
  | some ⟨events, latency, some message⟩ =>
    simp only [htable]
    rfl
  | some ⟨events, latency, none⟩ =>
    by_cases hinsert : isInsert statement.text = true <;>
      simp [htable, responseOf, writes, hinsert]

theorem getElem?_answer_snd (statement : BoundStatement) (s : MemoryStore) {i : Nat}
    (hi : i ≠ target statement) : (answer statement s).2.tables[i]? = s.tables[i]? := by
  rw [answer_eq]
  split_ifs
  · exact List.getElem?_modify_ne _ _ hi.symm
  · rfl

theorem not_isCrash_responseOf (statement : BoundStatement) (table? : Option EventTable) :
    (responseOf statement table?).outcome.isCrash = false := by
  match table? with
  | none => rfl
  | some ⟨events, latency, some message⟩ => rfl
  | some ⟨events, latency, none⟩ =>
    simp only [responseOf]
    cases isInsert statement.text <;> rfl

/-- The in-memory store has separate tables, whatever they hold and whichever fail. -/
instance tabled : Tabled MemoryStore where
  answer_of_apart s t store := by
    rintro ⟨i, j, hi, hj, hne⟩
    have htarget : target s ≠ target t := by
      rw [target, target, hi, hj]
      exact hne
    show (answer s (answer t store).2).1 = (answer s store).1
    rw [answer_eq s, answer_eq s, getElem?_answer_snd t store htarget]
  not_isCrash s store := by
    show (answer s store).1.outcome.isCrash = false
    rw [answer_eq]
    exact not_isCrash_responseOf _ _

end MemoryStore

end RotatedShards
