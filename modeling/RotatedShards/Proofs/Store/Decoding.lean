import Mathlib.Data.List.Forall2
import Mathlib.Data.List.Nodup
import RotatedShards.Proofs.Except
import RotatedShards.Store.Event

/-!
# Decoding events

What rows are decoded to: the events that they hold if both columns are there and every row has
a text in each, and the first fault otherwise. Where names are distinct and rows are full, the
order of the columns and other columns make no difference to the events.

Results:
* `Event.decodeMany_eq_iff`: what is decoded is what the rules say, for all rows.
* `Event.decodeMany_of_relaid`: columns that change their order and columns that are added.
* `Event.decodeMany_exact`: both, and when there are events at all.
-/

namespace RotatedShards

/-! ## Columns -/

namespace RawRows

variable {r : RawRows} {name : String} {i : Nat}

/-- The first column with a given name is in this position. -/
def FirstColumn (r : RawRows) (name : String) (i : Nat) : Prop :=
  r.columns[i]? = some name ∧ name ∉ r.columns.take i

theorem columnIndex?_eq_some_iff : r.columnIndex? name = some i ↔ r.FirstColumn name i := by
  rw [columnIndex?, List.idxOf?, List.findIdx?_eq_some_iff_getElem, FirstColumn]
  constructor
  · rintro ⟨hi, hname, hbefore⟩
    refine ⟨?_, fun hmem => ?_⟩
    · rw [List.getElem?_eq_getElem hi, eq_of_beq hname]
    · obtain ⟨j, hj, rfl⟩ := List.mem_take_iff_getElem.mp hmem
      have hlt : j < i := by omega
      simpa using hbefore j hlt
  · rintro ⟨hname, hbefore⟩
    obtain ⟨hi, rfl⟩ := List.getElem?_eq_some_iff.mp hname
    refine ⟨hi, beq_self_eq_true _, fun j hj => ?_⟩
    have hne : r.columns[j] ≠ r.columns[i] := by
      intro heq
      apply hbefore
      rw [← heq]
      exact List.mem_take_iff_getElem.mpr ⟨j, by omega, rfl⟩
    simpa using hne

theorem columnIndex?_eq_none_iff : r.columnIndex? name = none ↔ name ∉ r.columns :=
  List.idxOf?_eq_none_iff

theorem exists_firstColumn (h : name ∈ r.columns) : ∃ i, r.FirstColumn name i := by
  cases hindex : r.columnIndex? name with
  | none => exact absurd h (columnIndex?_eq_none_iff.mp hindex)
  | some i => exact ⟨i, columnIndex?_eq_some_iff.mp hindex⟩

theorem firstColumn_of_count_le (h : r.columns.count name ≤ 1) (hi : r.columns[i]? = some name) :
    r.FirstColumn name i := by
  refine ⟨hi, fun hmem => ?_⟩
  obtain ⟨hlt, hname⟩ := List.getElem?_eq_some_iff.mp hi
  have hsplit : r.columns.count name =
      (r.columns.take i).count name + (r.columns.drop i).count name := by
    rw [← List.count_append, List.take_append_drop]
  have hbefore : 0 < (r.columns.take i).count name := List.count_pos_iff.mpr hmem
  have hat : 0 < (r.columns.drop i).count name := by
    rw [List.count_pos_iff, List.drop_eq_getElem_cons hlt, hname]
    exact List.mem_cons_self
  omega

end RawRows

/-! ## Cells -/

namespace Event

variable {r : RawRows} {name : String} {row : List Value} {key payload i : Nat} {e : Event}

theorem column_eq_ok_iff : column r name = .ok i ↔ r.FirstColumn name i := by
  rw [← RawRows.columnIndex?_eq_some_iff, column]
  cases r.columnIndex? name <;> simp

theorem column_eq_error_iff {err : QueryError} :
    column r name = .error err ↔ name ∉ r.columns ∧ err = .backend (.missingColumn name) := by
  rw [← RawRows.columnIndex?_eq_none_iff, column]
  cases r.columnIndex? name <;> simp [eq_comm]

theorem textAt_eq_ok_iff {s : String} : textAt row i = .ok s ↔ row[i]? = some (.text s) := by
  rw [textAt]
  cases row[i]? with
  | none => simp
  | some v => cases v <;> simp [Value.asText?]

/-- A cell of a row has no text in it, or is not there at all. -/
def NoText (row : List Value) (i : Nat) : Prop := ∀ s, row[i]? ≠ some (.text s)

theorem textAt_eq_error_iff {err : QueryError} :
    textAt row i = .error err ↔ NoText row i ∧ err = .backend (.notText i) := by
  rw [textAt, NoText]
  cases row[i]? with
  | none => simp [eq_comm]
  | some v => cases v <;> simp [Value.asText?, eq_comm]

/-- A row has an event in its cells for the key and the payload. -/
structure Holds (key payload : Nat) (row : List Value) (e : Event) : Prop where
  key_eq : row[key]? = some (.text e.key)
  payload_eq : row[payload]? = some (.text e.payload)

/-- The first cell of a row that should be a text and is none: the key comes before the payload. -/
inductive Fault (key payload : Nat) (row : List Value) : Nat → Prop
  | key (h : NoText row key) : Fault key payload row key
  | payload (hkey : ¬NoText row key) (h : NoText row payload) : Fault key payload row payload

theorem ofRow_eq_ok_iff : ofRow key payload row = .ok e ↔ Holds key payload row e := by
  rw [ofRow, bind_eq_ok_iff]
  constructor
  · rintro ⟨s, hkey, h⟩
    obtain ⟨t, hpayload, h⟩ := bind_eq_ok_iff.mp h
    obtain rfl := Except.ok.inj h
    exact ⟨textAt_eq_ok_iff.mp hkey, textAt_eq_ok_iff.mp hpayload⟩
  · intro h
    exact ⟨e.key, textAt_eq_ok_iff.mpr h.key_eq,
      bind_eq_ok_iff.mpr ⟨e.payload, textAt_eq_ok_iff.mpr h.payload_eq, rfl⟩⟩

theorem ofRow_eq_error_iff {err : QueryError} :
    ofRow key payload row = .error err ↔
      ∃ cell, Fault key payload row cell ∧ err = .backend (.notText cell) := by
  rw [ofRow, bind_eq_error_iff]
  constructor
  · rintro (hkey | ⟨s, hkey, h⟩)
    · obtain ⟨hno, rfl⟩ := textAt_eq_error_iff.mp hkey
      exact ⟨key, .key hno, rfl⟩
    · have hyes : ¬NoText row key := fun hno => hno s (textAt_eq_ok_iff.mp hkey)
      rcases bind_eq_error_iff.mp h with hpayload | ⟨t, -, h⟩
      · obtain ⟨hno, rfl⟩ := textAt_eq_error_iff.mp hpayload
        exact ⟨payload, .payload hyes hno, rfl⟩
      · cases h
  · rintro ⟨cell, hfault, rfl⟩
    cases hfault with
    | key hno => exact .inl (textAt_eq_error_iff.mpr ⟨hno, rfl⟩)
    | payload hyes hno =>
      obtain ⟨s, hs⟩ := not_forall_not.mp hyes
      refine .inr ⟨s, textAt_eq_ok_iff.mpr hs, bind_eq_error_iff.mpr (.inl ?_)⟩
      exact textAt_eq_error_iff.mpr ⟨hno, rfl⟩

/-! ## Rows -/

/-- What rows are to be decoded to: the events that they hold, in their order, unless a column is
    missing or a cell is no text. A missing column comes before all cells, and of the cells the
    first one counts, row by row. -/
inductive Decodes (r : RawRows) : Except QueryError (List Event) → Prop
  | noKey (h : "key" ∉ r.columns) : Decodes r (.error (.backend (.missingColumn "key")))
  | noPayload (hkey : "key" ∈ r.columns) (h : "payload" ∉ r.columns) :
      Decodes r (.error (.backend (.missingColumn "payload")))
  | notText {key payload cell : Nat} {before after : List (List Value)} {row : List Value}
      (hkey : r.FirstColumn "key" key) (hpayload : r.FirstColumn "payload" payload)
      (hrows : r.rows = before ++ row :: after)
      (hbefore : ∀ b ∈ before, ∃ e, Holds key payload b e) (h : Fault key payload row cell) :
      Decodes r (.error (.backend (.notText cell)))
  | events {key payload : Nat} {events : List Event} (hkey : r.FirstColumn "key" key)
      (hpayload : r.FirstColumn "payload" payload)
      (h : List.Forall₂ (Holds key payload) r.rows events) : Decodes r (.ok events)

theorem decodeMany_eq_mapM (hkey : r.FirstColumn "key" key)
    (hpayload : r.FirstColumn "payload" payload) :
    mapper.decodeMany r = r.rows.mapM (ofRow key payload) := by
  show column r "key" >>= _ = _
  rw [column_eq_ok_iff.mpr hkey]
  show column r "payload" >>= _ = _
  rw [column_eq_ok_iff.mpr hpayload]
  rfl

theorem Decodes.decodeMany_eq {result : Except QueryError (List Event)} (h : Decodes r result) :
    mapper.decodeMany r = result := by
  cases h with
  | noKey h => exact bind_eq_error_iff.mpr (.inl (column_eq_error_iff.mpr ⟨h, rfl⟩))
  | noPayload hkey h =>
    obtain ⟨key, hkey⟩ := RawRows.exists_firstColumn hkey
    refine bind_eq_error_iff.mpr (.inr ⟨key, column_eq_ok_iff.mpr hkey, ?_⟩)
    exact bind_eq_error_iff.mpr (.inl (column_eq_error_iff.mpr ⟨h, rfl⟩))
  | notText hkey hpayload hrows hbefore h =>
    rw [decodeMany_eq_mapM hkey hpayload, hrows]
    apply mapM_append_eq_error
    · intro b hb
      obtain ⟨e, he⟩ := hbefore b hb
      exact ⟨e, ofRow_eq_ok_iff.mpr he⟩
    · exact ofRow_eq_error_iff.mpr ⟨_, h, rfl⟩
  | events hkey hpayload h =>
    rw [decodeMany_eq_mapM hkey hpayload, mapM_eq_ok_iff]
    exact h.imp fun _ _ => ofRow_eq_ok_iff.mpr

/-- Rows that do not all hold an event have a first one that holds none. -/
theorem exists_first_fault {rows : List (List Value)}
    (h : ¬∃ events, List.Forall₂ (Holds key payload) rows events) :
    ∃ before row after cell, rows = before ++ row :: after ∧
      (∀ b ∈ before, ∃ e, Holds key payload b e) ∧ Fault key payload row cell := by
  induction rows with
  | nil => exact absurd ⟨[], .nil⟩ h
  | cons row rest ih =>
    cases hrow : ofRow key payload row with
    | error err =>
      obtain ⟨cell, hfault, -⟩ := ofRow_eq_error_iff.mp hrow
      exact ⟨[], row, rest, cell, rfl, by simp, hfault⟩
    | ok e =>
      have he : Holds key payload row e := ofRow_eq_ok_iff.mp hrow
      obtain ⟨before, row', after, cell, rfl, hbefore, hfault⟩ :=
        ih fun ⟨events, hevents⟩ => h ⟨e :: events, .cons he hevents⟩
      refine ⟨row :: before, row', after, cell, rfl, ?_, hfault⟩
      exact List.forall_mem_cons.mpr ⟨⟨e, he⟩, hbefore⟩

theorem exists_decodes (r : RawRows) : ∃ result, Decodes r result := by
  by_cases hkey : "key" ∈ r.columns
  · by_cases hpayload : "payload" ∈ r.columns
    · obtain ⟨key, hkey⟩ := RawRows.exists_firstColumn hkey
      obtain ⟨payload, hpayload⟩ := RawRows.exists_firstColumn hpayload
      by_cases hall : ∃ events, List.Forall₂ (Holds key payload) r.rows events
      · obtain ⟨events, hevents⟩ := hall
        exact ⟨_, .events hkey hpayload hevents⟩
      · obtain ⟨before, row, after, cell, hrows, hbefore, hfault⟩ := exists_first_fault hall
        exact ⟨_, .notText hkey hpayload hrows hbefore hfault⟩
    · exact ⟨_, .noPayload hkey hpayload⟩
  · exact ⟨_, .noKey hkey⟩

/-- What is decoded is what the rules say. -/
theorem decodeMany_eq_iff {result : Except QueryError (List Event)} :
    mapper.decodeMany r = result ↔ Decodes r result := by
  refine ⟨?_, Decodes.decodeMany_eq⟩
  rintro rfl
  obtain ⟨result, h⟩ := exists_decodes r
  rw [h.decodeMany_eq]
  exact h

/-- There are events where both columns are there and every row has a text in each. -/
theorem exists_decodeMany_iff :
    (∃ events, mapper.decodeMany r = .ok events) ↔
      ∃ key payload, r.FirstColumn "key" key ∧ r.FirstColumn "payload" payload ∧
        ∀ row ∈ r.rows, ∃ e, Holds key payload row e := by
  constructor
  · rintro ⟨events, h⟩
    cases decodeMany_eq_iff.mp h with
    | @events key payload _ hkey hpayload h =>
      refine ⟨key, payload, hkey, hpayload, fun row hrow => ?_⟩
      obtain ⟨i, hi, rfl⟩ := List.getElem_of_mem hrow
      exact ⟨_, h.get hi (h.length_eq ▸ hi)⟩
  · rintro ⟨key, payload, hkey, hpayload, h⟩
    rw [decodeMany_eq_mapM hkey hpayload]
    apply exists_mapM_eq_ok
    intro row hrow
    obtain ⟨e, he⟩ := h row hrow
    exact ⟨e, ofRow_eq_ok_iff.mpr he⟩

end Event

/-! ## Layouts -/

namespace RawRows

/-- Takes the columns, and with them the cells of every row, in another order. -/
def reorder (r : RawRows) (order : List Nat) : RawRows :=
  ⟨order.filterMap (r.columns[·]?), r.rows.map fun row => order.filterMap (row[·]?)⟩

/-- Adds a column in a given position, with a cell for each row. -/
def addColumn (r : RawRows) (position : Nat) (name : String) (cells : List Value) : RawRows :=
  ⟨r.columns.insertIdx position name,
    List.zipWith (fun row cell => row.insertIdx position cell) r.rows cells⟩

/-- Rows that come from others by putting the columns in other orders and by adding columns with
    names that are not among those in use. -/
inductive Relaid (used : List String) (r : RawRows) : RawRows → Prop
  | refl : Relaid used r r
  | reorder {r' : RawRows} {order : List Nat} (h : Relaid used r r')
      (horder : order.Perm (List.range r'.columns.length)) : Relaid used r (r'.reorder order)
  | addColumn {r' : RawRows} {position : Nat} {name : String} {cells : List Value}
      (h : Relaid used r r') (hposition : position ≤ r'.columns.length)
      (hcells : cells.length = r'.rows.length) (hname : name ∉ used) :
      Relaid used r (r'.addColumn position name cells)

/-- No name in use is there twice, and every row has a cell for each column. -/
structure Tabular (used : List String) (r : RawRows) : Prop where
  once : ∀ name ∈ used, r.columns.count name ≤ 1
  full : ∀ row ∈ r.rows, row.length = r.columns.length

/-- Every column has its cells under one place of another layout. -/
structure Carries (r r' : RawRows) (place : Nat → Nat) : Prop where
  columns : ∀ i < r.columns.length, r'.columns[place i]? = r.columns[i]?
  rows : List.Forall₂ (fun row row' => ∀ i < r.columns.length, row'[place i]? = row[i]?)
    r.rows r'.rows

section Reorder

variable {α : Type} {xs : List α} {order : List Nat}

theorem getElem?_filterMap_order (h : ∀ i ∈ order, i < xs.length) (j : Nat) :
    (order.filterMap (xs[·]?))[j]? = order[j]? >>= (xs[·]?) := by
  induction order generalizing j with
  | nil => simp
  | cons i rest ih =>
    obtain ⟨hi, hrest⟩ := List.forall_mem_cons.mp h
    rw [List.filterMap_cons_some (List.getElem?_eq_getElem hi)]
    cases j with
    | zero => simp [List.getElem?_eq_getElem hi]
    | succ j => simpa using ih hrest j

theorem perm_filterMap_order (h : order.Perm (List.range xs.length)) :
    (order.filterMap (xs[·]?)).Perm xs := by
  have hall : (List.range xs.length).filterMap (xs[·]?) = xs := by
    apply List.ext_getElem?
    intro j
    rw [getElem?_filterMap_order (by simp)]
    by_cases hj : j < xs.length
    · simp [hj]
    · simp [hj]
  have := h.filterMap (xs[·]?)
  rwa [hall] at this

theorem getElem?_filterMap_idxOf (h : order.Perm (List.range xs.length)) {i : Nat}
    (hi : i < xs.length) : (order.filterMap (xs[·]?))[order.idxOf i]? = xs[i]? := by
  have hmem : i ∈ order := h.mem_iff.mpr (List.mem_range.mpr hi)
  rw [getElem?_filterMap_order fun k hk => List.mem_range.mp (h.mem_iff.mp hk),
    List.getElem?_idxOf hmem]
  rfl

end Reorder

/-- The place of a position after a cell has been put in. -/
def shifted (position i : Nat) : Nat := if i < position then i else i + 1

theorem getElem?_insertIdx_shifted {α : Type} (xs : List α) (position : Nat) (x : α) (i : Nat) :
    (xs.insertIdx position x)[shifted position i]? = xs[i]? := by
  unfold shifted
  split_ifs with hi
  · exact List.getElem?_insertIdx_of_lt hi
  · rw [List.getElem?_insertIdx_of_gt (by omega), Nat.add_sub_cancel]

namespace Tabular

variable {used : List String} {r : RawRows} {order : List Nat} {position : Nat} {name : String}
  {cells : List Value}

theorem reorder (h : r.Tabular used) (horder : order.Perm (List.range r.columns.length)) :
    (r.reorder order).Tabular used ∧ r.Carries (r.reorder order) order.idxOf := by
  refine ⟨⟨?_, ?_⟩, ?_, ?_⟩
  · intro name hname
    show (order.filterMap (r.columns[·]?)).count name ≤ 1
    rw [(perm_filterMap_order horder).count_eq]
    exact h.once name hname
  · intro row' hrow'
    obtain ⟨row, hrow, rfl⟩ := List.mem_map.mp hrow'
    show _ = (order.filterMap (r.columns[·]?)).length
    have hfull : row.length = r.columns.length := h.full row hrow
    rw [(perm_filterMap_order horder).length_eq,
      (perm_filterMap_order (hfull ▸ horder)).length_eq, hfull]
  · intro i hi
    exact getElem?_filterMap_idxOf horder hi
  · show List.Forall₂ _ r.rows (r.rows.map _)
    rw [List.forall₂_map_right_iff, List.forall₂_same]
    intro row hrow i hi
    have hfull : row.length = r.columns.length := h.full row hrow
    exact getElem?_filterMap_idxOf (hfull ▸ horder) (hfull ▸ hi)

theorem addColumn (h : r.Tabular used) (hposition : position ≤ r.columns.length)
    (hcells : cells.length = r.rows.length) (hname : name ∉ used) :
    (r.addColumn position name cells).Tabular used ∧
      r.Carries (r.addColumn position name cells) (shifted position) := by
  refine ⟨⟨?_, ?_⟩, ?_, ?_⟩
  · intro other hother
    show (r.columns.insertIdx position name).count other ≤ 1
    rw [(List.perm_insertIdx name r.columns hposition).count_eq,
      List.count_cons_of_ne (ne_of_mem_of_not_mem hother hname).symm]
    exact h.once other hother
  · intro row' hrow'
    obtain ⟨k, hk, rfl⟩ := List.getElem_of_mem hrow'
    have hk₀ : k < r.rows.length := by
      simp only [RawRows.addColumn, List.length_zipWith] at hk
      omega
    have hfull : r.rows[k].length = r.columns.length := h.full _ (List.getElem_mem hk₀)
    simp only [RawRows.addColumn, List.getElem_zipWith]
    rw [List.length_insertIdx_of_le_length (hfull ▸ hposition),
      List.length_insertIdx_of_le_length hposition, hfull]
  · intro i _
    exact getElem?_insertIdx_shifted r.columns position name i
  · refine List.forall₂_iff_get.mpr ⟨?_, ?_⟩
    · simp [RawRows.addColumn, hcells]
    · intro k hk hk' i _
      simpa [RawRows.addColumn] using getElem?_insertIdx_shifted r.rows[k] position cells[k] i

end Tabular

end RawRows

namespace Event

variable {r r' : RawRows} {events : List Event}

/-- A layout that carries every column has the same events, if no name in use is there twice. -/
theorem decodeMany_of_carries {place : Nat → Nat} (h : r.Carries r' place)
    (htabular : r'.Tabular columns) (hevents : mapper.decodeMany r = .ok events) :
    mapper.decodeMany r' = .ok events := by
  have hfirst : ∀ name ∈ columns, ∀ {i : Nat}, r.FirstColumn name i →
      i < r.columns.length ∧ r'.FirstColumn name (place i) := by
    intro name hname i hi
    have hlt : i < r.columns.length := (List.getElem?_eq_some_iff.mp hi.1).1
    refine ⟨hlt, RawRows.firstColumn_of_count_le (htabular.once name hname) ?_⟩
    rw [h.columns i hlt, hi.1]
  cases decodeMany_eq_iff.mp hevents with
  | events hkey hpayload hrows =>
    obtain ⟨hkeyLt, hkey'⟩ := hfirst "key" (by decide) hkey
    obtain ⟨hpayloadLt, hpayload'⟩ := hfirst "payload" (by decide) hpayload
    refine decodeMany_eq_iff.mpr (.events hkey' hpayload' ?_)
    rw [List.forall₂_iff_get] at hrows ⊢
    have hcells := List.forall₂_iff_get.mp h.rows
    refine ⟨hcells.1.symm.trans hrows.1, fun k hk hk' => ?_⟩
    have hk₀ : k < r.rows.length := by omega
    have hheld := hrows.2 k hk₀ hk'
    have hcarried := hcells.2 k hk₀ hk
    exact ⟨(hcarried _ hkeyLt).trans hheld.key_eq, (hcarried _ hpayloadLt).trans hheld.payload_eq⟩

/-- Neither the order of the columns nor other columns make a difference to the events. -/
theorem decodeMany_of_relaid (h : r.Relaid columns r') (htabular : r.Tabular columns)
    (hevents : mapper.decodeMany r = .ok events) :
    r'.Tabular columns ∧ mapper.decodeMany r' = .ok events := by
  induction h with
  | refl => exact ⟨htabular, hevents⟩
  | reorder _ horder ih =>
    obtain ⟨htabular', hcarries⟩ := ih.1.reorder horder
    exact ⟨htabular', decodeMany_of_carries hcarries htabular' ih.2⟩
  | addColumn _ hposition hcells hname ih =>
    obtain ⟨htabular', hcarries⟩ := ih.1.addColumn hposition hcells hname
    exact ⟨htabular', decodeMany_of_carries hcarries htabular' ih.2⟩

/-- The rows that are decoded to events are those with both columns and a text in each for every
    row. What rows are decoded to, events or the first fault, is what the rules say; where names
    are distinct and rows are full, it is the same events for every order of the columns and with
    further columns. -/
theorem decodeMany_exact (r : RawRows) :
    ((∃ events, mapper.decodeMany r = .ok events) ↔
      ∃ key payload, r.FirstColumn "key" key ∧ r.FirstColumn "payload" payload ∧
        ∀ row ∈ r.rows, ∃ e, Holds key payload row e) ∧
    (∀ result, mapper.decodeMany r = result ↔ Decodes r result) ∧
    (r.columns.Nodup → (∀ row ∈ r.rows, row.length = r.columns.length) →
      ∀ events r', mapper.decodeMany r = .ok events → r.Relaid columns r' →
        mapper.decodeMany r' = .ok events) := by
  refine ⟨exists_decodeMany_iff, fun _ => decodeMany_eq_iff, ?_⟩
  intro hnodup hfull events r' hevents hrelaid
  have htabular : r.Tabular columns :=
    ⟨fun name _ => List.nodup_iff_count_le_one.mp hnodup name, hfull⟩
  exact (decodeMany_of_relaid hrelaid htabular hevents).2

/-- Two rows of an event table. -/
def twoRows : RawRows := ⟨columns, [toRow ⟨"k", "a"⟩, toRow ⟨"l", "b"⟩]⟩

theorem decodeMany_exact_reversed :
    mapper.decodeMany ((twoRows.addColumn 1 "note" [.null, .integer 7]).reorder [2, 1, 0]) =
      .ok [⟨"k", "a"⟩, ⟨"l", "b"⟩] :=
  (decodeMany_exact twoRows).2.2 (by decide) (by simp [twoRows, toRow, columns]) _ _ rfl
    (.reorder (.addColumn .refl (by decide) rfl (by decide)) (by decide))

end Event

end RotatedShards
