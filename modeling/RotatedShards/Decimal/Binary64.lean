/-!
# Binary floating-point numbers

Numbers in the 64-bit binary interchange format, kept as their bits: a sign, 11
bits of exponent and 52 bits of fraction.

Main definitions:

* `Binary64.ieeeEq`: equality of numbers, which tells no zero from another and
  no NaN from itself apart from a different number.
* `Binary64.ofInt`: the nearest number to an integer, ties to even.
* `Binary64.scaled`: the magnitude of a finite number as `m * 2 ^ q`.
-/

namespace RotatedShards

/-- A floating-point number, given by its bits. -/
structure Binary64 where
  bits : UInt64
deriving DecidableEq

namespace Binary64

/-! ## Parts -/

/-- The sign bit is set. -/
def negative (x : Binary64) : Bool := Nat.pow 2 63 ≤ x.bits.toNat

/-- The biased exponent. -/
def biasedExponent (x : Binary64) : Nat := x.bits.toNat / Nat.pow 2 52 % Nat.pow 2 11

/-- The bits of the fraction. -/
def fraction (x : Binary64) : Nat := x.bits.toNat % Nat.pow 2 52

/-- Neither an infinity nor a NaN. -/
def isFinite (x : Binary64) : Bool := x.biasedExponent != 2047

/-- Not a number. -/
def isNaN (x : Binary64) : Bool := x.biasedExponent == 2047 && x.fraction != 0

/-- One of the two zeros. -/
def isZero (x : Binary64) : Bool := x.biasedExponent == 0 && x.fraction == 0

/-- The magnitude of a finite number as `m * 2 ^ q`. -/
def scaled (x : Binary64) : Nat × Int :=
  if x.biasedExponent = 0 then (x.fraction, -1074)
  else (Nat.pow 2 52 + x.fraction, (x.biasedExponent : Int) - 1075)

/-- The positive zero. -/
def zero : Binary64 := ⟨0⟩

/-- The quiet NaN. -/
def nan : Binary64 := ⟨0x7ff8000000000000⟩

/-! ## Comparison and conversion -/

/-- Equality of numbers: both zeros are equal, and a NaN equals nothing. -/
def ieeeEq (x y : Binary64) : Bool :=
  !x.isNaN && !y.isNaN && (x.bits == y.bits || (x.isZero && y.isZero))

/-- `n / 2 ^ shift`, rounded to the nearest integer, ties to even. -/
def roundShift (n shift : Nat) : Nat :=
  let unit := Nat.pow 2 shift
  let quotient := n / unit
  let rest := n % unit
  if 2 * rest > unit || (2 * rest == unit && quotient % 2 == 1) then quotient + 1
  else quotient

/-- The bits of the nearest number to a natural number below `2^1023`. A carry
    out of the fraction moves into the exponent, where it belongs. -/
def bitsOfNat (n : Nat) : Nat :=
  if n = 0 then 0
  else
    let e := n.log2
    let significand := if e ≤ 52 then n * Nat.pow 2 (52 - e) else roundShift n (e - 52)
    (e + 1022) * Nat.pow 2 52 + significand

/-- The nearest number to an integer of at most 64 bits. -/
def ofInt (n : Int) : Binary64 :=
  let sign := if n < 0 then Nat.pow 2 63 else 0
  ⟨UInt64.ofNat (sign + bitsOfNat n.natAbs)⟩

end Binary64

end RotatedShards
