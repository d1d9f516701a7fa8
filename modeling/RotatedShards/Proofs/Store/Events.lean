import RotatedShards.Proofs.Except
import RotatedShards.Proofs.Execution.Outlook
import RotatedShards.Proofs.Store.Tables

/-!
# Events in tables

The in-memory store as tables of events, for as long as no table fails: what a write adds,
what reads find, and which of them find more after an event has been added.

Results:
* `MemoryStore.answer_of_write`, `MemoryStore.answer_of_read`: a write and a read of a table.
* `MemoryStore.read_all`: reads find what the tables hold and leave them as they are.
* `Event.filter_selects`: which events a value selects.
* `MemoryStore.flatMap_segment_insert`: what shards have for a read, before and after an
  event is added to one of them.
-/

namespace RotatedShards

namespace MemoryStore

/-! ## Statements -/

theorem isInsert_of_insert {text : String} (h : "INSERT".toList <+: text.toList) :
    isInsert text = true := by
  obtain ⟨rest, h⟩ := h
  rw [isInsert, ← h]
  rfl

theorem isInsert_of_select {text : String} (h : "SELECT".toList <+: text.toList) :
    isInsert text = false := by
  obtain ⟨rest, h⟩ := h
  rw [isInsert, ← h]
  rfl

end MemoryStore

namespace Event

theorem isInsert_of_mem_insertStatements {table : String} {count : Nat} {p : PreparedStatement}
    (h : p ∈ insertStatements table count) : MemoryStore.isInsert p.text = true := by
  obtain ⟨i, -, rfl⟩ := List.mem_map.mp h
  refine MemoryStore.isInsert_of_insert ?_
  simp only [String.toList_append, List.append_assoc]
  exact ⟨_, rfl⟩

theorem isInsert_of_mem_selectStatements {table : String} {count : Nat} {p : PreparedStatement}
    (h : p ∈ selectStatements table count) : MemoryStore.isInsert p.text = false := by
  obtain ⟨i, -, rfl⟩ := List.mem_map.mp h
  refine MemoryStore.isInsert_of_select ?_
  simp only [String.toList_append, List.append_assoc]
  exact ⟨_, rfl⟩

/-! ## Selected events -/

/-- The events that a value selects: all for null, those with the key for a text, and none for
    any other value. -/
def selectedBy : Value → List Event → List Event
  | .null, events => events
  | .text key, events => events.filter fun event => event.key = key
  | _, _ => []

/-- The filter of a reading statement selects the events that its value does. -/
theorem filter_selects (value : Value) (events : List Event) :
    events.filter (MemoryStore.selects [value]) = selectedBy value events := by
  cases value with
  | null => exact List.filter_eq_self.mpr fun _ _ => rfl
  | text key =>
    refine List.filter_congr fun event _ => ?_
    show (some key == some event.key) = decide (event.key = key)
    rw [Bool.eq_iff_iff, beq_iff_eq, decide_eq_true_iff, Option.some.injEq, eq_comm]
  | _ => exact List.filter_eq_nil_iff.mpr fun _ _ => Bool.false_ne_true

theorem selectedBy_concat {value : Value} {event : Event}
    (h : value = .null ∨ value = .text event.key) (events : List Event) :
    selectedBy value (events ++ [event]) = selectedBy value events ++ [event] := by
  rcases h with rfl | rfl
  · rfl
  · simp only [selectedBy, List.filter_append, List.filter_singleton, decide_true, cond_true]

theorem selectedBy_concat_of_not {value : Value} {event : Event}
    (h : ¬(value = .null ∨ value = .text event.key)) (events : List Event) :
    selectedBy value (events ++ [event]) = selectedBy value events := by
  obtain ⟨hnull, htext⟩ := not_or.mp h
  cases value with
  | null => exact absurd rfl hnull
  | text key =>
    have hkey : decide (event.key = key) = false :=
      decide_eq_false fun heq => htext (congrArg Value.text heq.symm)
    simp only [selectedBy, List.filter_append, List.filter_singleton, hkey, cond_false,
      List.append_nil]
  | _ => rfl

theorem decodeMany_selected (value : Value) (events : List Event) :
    mapper.decodeMany (MemoryStore.selected [value] events) = .ok (selectedBy value events) := by
  have hrows : ((selectedBy value events).map toRow).mapM (ofRow 0 1) =
      .ok (selectedBy value events) := by
    rw [List.mapM_map]
    exact (mapM_eq_ok_map (g := id) fun _ _ => rfl).trans (by rw [List.map_id])
  rw [MemoryStore.selected, filter_selects]
  exact hrows

end Event

namespace MemoryStore

/-! ## Stores without failures -/

/-- A store with a table for each of `count` shards, none of which fails. -/
structure Whole (s : MemoryStore) (count : Nat) : Prop where
  length_tables : s.tables.length = count
  failure_eq_none : ∀ table ∈ s.tables, table.failure = none

theorem target_lt {statement : BoundStatement} {count : Nat}
    (h : statement.shard.addresses count = true) : target statement < count := by
  obtain ⟨i, hi, hlt⟩ := ShardId.addresses_iff.mp h
  rwa [target, hi]

theorem events_eq {s : MemoryStore} {i : Nat} {table : EventTable} (h : s.tables[i]? = some table) :
    s.events i = table.events := by
  rw [events, h]

theorem tables_insert (s : MemoryStore) (i : Nat) (event : Event) :
    (s.insert i event).tables =
      s.tables.modify i fun t => { t with events := t.events ++ [event] } := rfl

theorem events_insert {s : MemoryStore} {i : Nat} (hi : i < s.tables.length) (event : Event) :
    (s.insert i event).events i = s.events i ++ [event] := by
  have hget : (s.insert i event).tables[i]? =
      some { s.tables[i] with events := s.tables[i].events ++ [event] } := by
    rw [tables_insert, List.getElem?_modify_eq, List.getElem?_eq_getElem hi]
    rfl
  rw [events_eq hget, events_eq (List.getElem?_eq_getElem hi)]

theorem events_insert_of_ne {i j : Nat} (h : j ≠ i) (s : MemoryStore) (event : Event) :
    (s.insert i event).events j = s.events j := by
  rw [events, events, tables_insert, List.getElem?_modify_ne _ _ h.symm]

namespace Whole

variable {s : MemoryStore} {count : Nat} {statement : BoundStatement}

theorem insert (h : s.Whole count) (i : Nat) (event : Event) : (s.insert i event).Whole count := by
  refine ⟨(List.length_modify _ _ _).trans h.length_tables, fun table htable => ?_⟩
  rw [tables_insert] at htable
  obtain ⟨j, hj, rfl⟩ := List.getElem_of_mem htable
  rw [List.length_modify] at hj
  have hkept := h.failure_eq_none _ (List.getElem_mem hj)
  rw [List.getElem_modify]
  split_ifs
  · exact hkept
  · exact hkept

/-- A write adds an event to the table that it goes to. -/
theorem answer_of_write (h : s.Whole count) (htarget : target statement < count)
    (hinsert : isInsert statement.text = true) :
    (answer statement s).1.outcome = .rows .empty ∧
      (answer statement s).2 = s.insert (target statement) (inserted statement.values) := by
  obtain ⟨table, htable⟩ : ∃ table, s.tables[target statement]? = some table :=
    ⟨_, List.getElem?_eq_getElem (h.length_tables ▸ htarget)⟩
  have hfailure := h.failure_eq_none table (List.mem_of_getElem? htable)
  rw [answer_eq, htable]
  simp only [responseOf, writes, hfailure, hinsert]
  exact ⟨rfl, rfl⟩

/-- A read finds the selected events of the table that it goes to. -/
theorem answer_of_read (h : s.Whole count) (htarget : target statement < count)
    (hinsert : isInsert statement.text = false) :
    (answer statement s).1.outcome =
        .rows (selected statement.values (s.events (target statement))) ∧
      (answer statement s).2 = s := by
  obtain ⟨table, htable⟩ : ∃ table, s.tables[target statement]? = some table :=
    ⟨_, List.getElem?_eq_getElem (h.length_tables ▸ htarget)⟩
  have hfailure := h.failure_eq_none table (List.mem_of_getElem? htable)
  rw [answer_eq, htable, events_eq htable]
  simp only [responseOf, writes, hfailure, hinsert]
  exact ⟨rfl, rfl⟩

/-- Reads find what the tables hold and leave them as they are. -/
theorem read_all (h : s.Whole count) {statements : List BoundStatement}
    (hread : ∀ statement ∈ statements,
      target statement < count ∧ isInsert statement.text = false) :
    (trace s statements).map Exchange.outcome =
        (statements.map fun st => selected st.values (s.events (target st))).map .rows ∧
      storeAfter s statements = s := by
  induction statements with
  | nil => exact ⟨rfl, rfl⟩
  | cons statement rest ih =>
    obtain ⟨hhead, hrest⟩ := List.forall_mem_cons.mp hread
    obtain ⟨houtcome, hstore⟩ := h.answer_of_read hhead.1 hhead.2
    obtain ⟨houtcomes, hafter⟩ := ih hrest
    have htrace : trace s (statement :: rest) =
        Exchange.on s statement :: trace (answer statement s).2 rest := rfl
    have hstoreAfter : storeAfter s (statement :: rest) = storeAfter (answer statement s).2 rest :=
      rfl
    rw [htrace, hstoreAfter, hstore, List.map_cons, houtcomes, List.map_cons, List.map_cons]
    exact ⟨congrArg (· :: _) houtcome, hafter⟩

end Whole

/-! ## Segments -/

/-- What the table of a shard has for a read with the given value. -/
def segment (s : MemoryStore) (value : Value) (shard : ShardId) : List Event :=
  Event.selectedBy value (s.events (shard.tableIndex?.getD 0))

section Segments

variable {s : MemoryStore} {count : Nat} {value : Value} {cur : ShardId} {i : Nat}
  {event : Event}

theorem segment_insert (hcur : cur.tableIndex? = some i) (hi : i < s.tables.length)
    (hselects : value = .null ∨ value = .text event.key) :
    (s.insert i event).segment value cur = s.segment value cur ++ [event] := by
  rw [segment, segment, hcur, Option.getD_some, events_insert hi,
    Event.selectedBy_concat hselects]

theorem segment_insert_of_not_selects (hi : i < s.tables.length)
    (hselects : ¬(value = .null ∨ value = .text event.key)) (shard : ShardId) :
    (s.insert i event).segment value shard = s.segment value shard := by
  unfold segment
  by_cases hshard : shard.tableIndex?.getD 0 = i
  · rw [hshard, events_insert hi, Event.selectedBy_concat_of_not hselects]
  · rw [events_insert_of_ne hshard]

theorem segment_insert_of_ne (hcur : cur.tableIndex? = some i) (hwithin : cur.within count = true)
    {shard : ShardId} (hshard : shard.within count = true) (hne : shard ≠ cur) :
    (s.insert i event).segment value shard = s.segment value shard := by
  obtain ⟨hcur', haddresses⟩ := ShardId.addresses_of_within hwithin
  obtain ⟨hshard', haddresses'⟩ := ShardId.addresses_of_within hshard
  obtain ⟨j, i', hj, hi', hji⟩ :=
    ShardId.exists_tableIndex?_of_ne haddresses' hshard' haddresses hcur' hne
  rw [hcur] at hi'
  cases hi'
  rw [segment, segment, hj, Option.getD_some, events_insert_of_ne hji]

theorem flatMap_segment_insert_of_not_mem (hcur : cur.tableIndex? = some i)
    (hwithin : cur.within count = true) {shards : List ShardId}
    (hshards : ∀ shard ∈ shards, shard.within count = true) (hmem : cur ∉ shards) :
    shards.flatMap ((s.insert i event).segment value) = shards.flatMap (s.segment value) :=
  List.flatMap_congr fun shard h =>
    segment_insert_of_ne hcur hwithin (hshards shard h) (ne_of_mem_of_not_mem h hmem)

/-- What the shards of a plan have for a read, before and after an event is added to the table
    of one shard: if that is in the plan and the event is selected, it comes last in the segment
    of the shard, and otherwise nothing changes. -/
theorem flatMap_segment_insert (hcur : cur.tableIndex? = some i) (hi : i < s.tables.length)
    (hwithin : cur.within count = true) {plan : List ShardId} (hnodup : plan.Nodup)
    (hplan : ∀ shard ∈ plan, shard.within count = true) (value : Value) (event : Event) :
    (value = .null ∨ value = .text event.key → cur ∈ plan →
      ∃ newer older, plan = newer ++ cur :: older ∧ cur ∉ newer ∧ cur ∉ older ∧
        plan.flatMap (s.segment value) =
          newer.flatMap (s.segment value) ++ s.segment value cur ++
            older.flatMap (s.segment value) ∧
        plan.flatMap ((s.insert i event).segment value) =
          newer.flatMap (s.segment value) ++ (s.segment value cur ++ [event]) ++
            older.flatMap (s.segment value)) ∧
    (¬(value = .null ∨ value = .text event.key) ∨ cur ∉ plan →
      plan.flatMap ((s.insert i event).segment value) = plan.flatMap (s.segment value)) := by
  constructor
  · intro hselects hmem
    obtain ⟨newer, older, rfl⟩ := List.append_of_mem hmem
    obtain ⟨-, hrest, hdisjoint⟩ := List.nodup_append.mp hnodup
    have hnewer : cur ∉ newer := fun h => hdisjoint cur h cur List.mem_cons_self rfl
    have holder : cur ∉ older := (List.nodup_cons.mp hrest).1
    refine ⟨newer, older, rfl, hnewer, holder, ?_, ?_⟩
    · rw [List.flatMap_append, List.flatMap_cons, List.append_assoc]
    · rw [List.flatMap_append, List.flatMap_cons, segment_insert hcur hi hselects,
        flatMap_segment_insert_of_not_mem hcur hwithin
          (fun shard h => hplan shard (List.mem_append_left _ h)) hnewer,
        flatMap_segment_insert_of_not_mem hcur hwithin
          (fun shard h => hplan shard (List.mem_append_right _ (List.mem_cons_of_mem _ h))) holder]
      simp only [List.append_assoc]
  · rintro (hselects | hmem)
    · exact List.flatMap_congr fun shard _ => segment_insert_of_not_selects hi hselects shard
    · exact flatMap_segment_insert_of_not_mem hcur hwithin hplan hmem

end Segments

end MemoryStore

end RotatedShards
