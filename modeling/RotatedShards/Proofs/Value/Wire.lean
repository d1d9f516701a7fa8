import Mathlib.Tactic.SplitIfs
import RotatedShards.Proofs.Except
import RotatedShards.Value.Wire

/-!
# Reading values back

A value is read back from its wire form exactly if all its floating-point numbers are finite,
however deep they lie. An infinity or a NaN is written as null, which no number is read from,
so that one of them spoils the whole value.

Results:
* `Binary64.isFinite_iff`: the numbers that are neither infinite nor NaN.
* `Value.ofJson_toJson`: what is read from the wire form of a value.
* `Value.ofJson_toJson_iff`: which values are read back.
-/

namespace RotatedShards

namespace Binary64

/-- One of the two infinities. -/
def isInfinite (x : Binary64) : Bool := x.biasedExponent == 2047 && x.fraction == 0

theorem isFinite_iff (x : Binary64) :
    x.isFinite = true ↔ x.isNaN = false ∧ x.isInfinite = false := by
  unfold isFinite isNaN isInfinite
  by_cases h : x.fraction = 0 <;> simp [h]

end Binary64

namespace Value

/-! ## Numbers inside a value -/

mutual

/-- The floating-point numbers inside a value, in order. -/
def floats : Value → List Binary64
  | .float x => [x]
  | .list items => floatsAll items
  | _ => []

/-- The floating-point numbers inside values, in order. -/
def floatsAll : List Value → List Binary64
  | [] => []
  | v :: vs => floats v ++ floatsAll vs

end

/-! ## Scalars -/

theorem signed64_int (n : Int64) : (Json.int n.toInt).signed64 = .ok n := by
  have hrange : -9223372036854775808 ≤ n.toInt ∧ n.toInt ≤ 9223372036854775807 :=
    ⟨n.le_toInt, by have := n.toInt_lt; omega⟩
  simp only [Json.signed64, Json.integer, if_pos hrange, Except.map, Int64.ofInt_toInt]

theorem byte_int (b : UInt8) : (Json.int b.toNat).byte = .ok b := by
  have hlt := b.toNat_lt
  have hrange : (0 : Int) ≤ b.toNat ∧ (b.toNat : Int) ≤ 255 := by omega
  simp only [Json.byte, Json.integer, if_pos hrange, Except.map, Int.toNat_natCast,
    UInt8.ofNat_toNat]

theorem bytes_ints (bs : List UInt8) :
    (Json.arr (bs.map fun b => .int b.toNat)).sequence Json.byte = .ok bs := by
  rw [Json.sequence, List.mapM_map]
  exact (mapM_eq_ok_map (g := id) fun b _ => byte_int b).trans (by rw [List.map_id])

/-! ## Values -/

/-- Null is no number. -/
def unread : DecodeError := .wrongKind .null .float

/-- What is read from the wire forms of values is all of them, or that null is no number, as
    long as this holds of each. -/
theorem ofJsonAll_toJsonAll {vs : List Value}
    (h : ∀ v ∈ vs, ofJson v.toJson = if v.floats.all Binary64.isFinite then .ok v
      else .error unread) :
    ofJsonAll (toJsonAll vs) =
      if (floatsAll vs).all Binary64.isFinite then .ok vs else .error unread := by
  induction vs with
  | nil => rfl
  | cons v rest ih =>
    obtain ⟨hv, hrest⟩ := List.forall_mem_cons.mp h
    rw [toJsonAll, ofJsonAll, hv, ih hrest, floatsAll, List.all_append]
    cases v.floats.all Binary64.isFinite with
    | false => rfl
    | true => cases (floatsAll rest).all Binary64.isFinite <;> rfl

/-- What is read from the wire form of a value: the value, or that null is no number. -/
theorem ofJson_toJson (v : Value) :
    ofJson v.toJson = if v.floats.all Binary64.isFinite then .ok v else .error unread := by
  cases v with
  | null => rfl
  | boolean b => rfl
  | integer n => exact congrArg (Except.map Value.integer) (signed64_int n)
  | text s => rfl
  | bytes bs => exact congrArg (Except.map Value.bytes) (bytes_ints bs)
  | timestamp ms => exact congrArg (Except.map Value.timestamp) (signed64_int ms)
  | float x =>
    show (Json.binary64 (if x.isFinite then .float x else .null)).map Value.float = _
    rw [floats, List.all_cons, List.all_nil, Bool.and_true]
    split_ifs <;> rfl
  | list items =>
    show (ofJsonAll (toJsonAll items)).map Value.list = _
    rw [ofJsonAll_toJsonAll fun v hmem => ofJson_toJson v, floats]
    split_ifs <;> rfl
termination_by sizeOf v
decreasing_by
  have hlt := List.sizeOf_lt_of_mem hmem
  simp only [list.sizeOf_spec]
  omega

/-- A value is read back from its wire form, or nothing is. It is read back exactly if none of
    the numbers inside it is infinite or NaN, and is the same value then, bit by bit and of the
    same kind; if one of them is, reading fails. -/
theorem ofJson_toJson_iff (v : Value) :
    (∀ w, ofJson v.toJson = .ok w ↔
      w = v ∧ ∀ x ∈ v.floats, x.isNaN = false ∧ x.isInfinite = false) ∧
    (ofJson v.toJson = .error (.wrongKind .null .float) ↔
      ∃ x ∈ v.floats, x.isNaN = true ∨ x.isInfinite = true) := by
  have hfinite : v.floats.all Binary64.isFinite = true ↔
      ∀ x ∈ v.floats, x.isNaN = false ∧ x.isInfinite = false := by
    simp only [List.all_eq_true, Binary64.isFinite_iff]
  have hspoilt : (∃ x ∈ v.floats, x.isNaN = true ∨ x.isInfinite = true) ↔
      ¬ v.floats.all Binary64.isFinite = true := by
    simp only [hfinite, not_forall, not_and_or, Bool.not_eq_false, exists_prop]
  rw [hspoilt, ← hfinite, ofJson_toJson]
  split_ifs with hall
  · simp [hall, eq_comm]
  · simp [hall, unread]

end Value

end RotatedShards
