import RotatedShards.Error
import RotatedShards.Value

/-!
# Rows

The rows that a shard answers with, and what turns them into objects of the
domain.

Main definitions:

* `RawRows`: named columns and rows of values.
* `RowMapper`: a decoder of rows; by default decoding one row is decoding all and
  taking the first.
-/

namespace RotatedShards

/-- The rows that a shard answers with, their values in the order of the columns. -/
structure RawRows where
  columns : List String
  rows : List (List Value)

namespace RawRows

/-- No rows and no columns. -/
def empty : RawRows := ⟨[], []⟩

instance : Inhabited RawRows := ⟨empty⟩

/-- There are no rows. -/
def isEmpty (r : RawRows) : Bool := r.rows.isEmpty

/-- The number of rows. -/
def count (r : RawRows) : Nat := r.rows.length

/-- `column_index`: the position of the first column with a given name. -/
def columnIndex? (r : RawRows) (name : String) : Option Nat := r.columns.idxOf? name

/-- The value in a row under a column name. -/
def get? (r : RawRows) (row : Nat) (column : String) : Option Value := do
  let index ← r.columnIndex? column
  let values ← r.rows[row]?
  values[index]?

/-- Equality of rows, with values compared as such. -/
instance : BEq RawRows := ⟨fun a b => a.columns == b.columns && a.rows == b.rows⟩

end RawRows

/-- Turns rows into objects of the domain: all of them (`decode_many`), or only the first
    one (`decode_optional`). Unless a mapper has a way of its own, it decodes all rows to
    get the first object. -/
structure RowMapper (α : Type) where
  decodeMany : RawRows → Except QueryError (List α)
  decodeOptional : RawRows → Except QueryError (Option α) :=
    fun rows => (decodeMany rows).map List.head?

end RotatedShards
