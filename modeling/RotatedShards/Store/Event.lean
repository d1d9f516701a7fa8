import RotatedShards.Rows
import RotatedShards.Statement

/-!
# Events

Events are the objects of the in-memory store: a key and a payload.

Main definitions:

* `Event.mapper`: decodes rows with a `key` and a `payload` column.
* `Event.selectStatements`, `Event.insertStatements`: the statements that read and
  write the tables of a family.
-/

namespace RotatedShards

/-- A row of an event table. -/
structure Event where
  key : String
  payload : String
deriving DecidableEq

namespace Event

/-! ## Decoding -/

/-- The columns of an event table. -/
def columns : List String := ["key", "payload"]

/-- The position of a column that has to be there. -/
def column (r : RawRows) (name : String) : Except QueryError Nat :=
  match r.columnIndex? name with
  | some index => .ok index
  | none => .error (.backend (.missingColumn name))

/-- The text in a column of a row. -/
def textAt (row : List Value) (index : Nat) : Except QueryError String :=
  match row[index]? >>= Value.asText? with
  | some s => .ok s
  | none => .error (.backend (.notText index))

/-- The event in a row, given the positions of its columns. -/
def ofRow (key payload : Nat) (row : List Value) : Except QueryError Event := do
  .ok ⟨← textAt row key, ← textAt row payload⟩

/-- The `EventMapper`: decodes rows that have a key and a payload, both texts. -/
def mapper : RowMapper Event where
  decodeMany r := do
    let key ← column r "key"
    let payload ← column r "payload"
    r.rows.mapM (ofRow key payload)

/-- The event as a row of an event table. -/
def toRow (e : Event) : List Value := [.text e.key, .text e.payload]

/-! ## Statements -/

/-- `select_statements`: the statements that read the tables of a family by key. -/
def selectStatements (table : String) (count : Nat) : List PreparedStatement :=
  (List.range count).map fun i =>
    { text := s!"SELECT key, payload FROM {table}_{i} WHERE key = ?", params := 1 }

/-- `insert_statements`: the statements that write to the tables of a family. -/
def insertStatements (table : String) (count : Nat) : List PreparedStatement :=
  (List.range count).map fun i =>
    { text := s!"INSERT INTO {table}_{i} (key, payload) VALUES (?, ?)", params := 2 }

end Event

end RotatedShards
