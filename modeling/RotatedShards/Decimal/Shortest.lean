import RotatedShards.Decimal.Binary64

/-!
# Shortest decimals

The shortest decimal that is read back as a given binary number. A decimal is
read as the number whose rounding interval it lies in: the interval reaches
half-way to the neighbours, with its ends where the significand is even.

Main definitions:

* `Decimal`: a number `digits * 10 ^ exponent`.
* `Decimal.shortest`: on the coarsest grid of powers of ten that meets the
  interval, the point that is nearest to the number.
* `Decimal.Tie`: which of two points that are equally near is taken.
-/

namespace RotatedShards

/-- The number `digits * 10 ^ exponent`. -/
structure Decimal where
  digits : Nat
  exponent : Int
deriving DecidableEq

namespace Decimal

/-- Which of two neighbouring points that are equally near is taken: the one that
    is farther from zero, or the one whose last digit is even. -/
inductive Tie
  | away
  | even
deriving DecidableEq

/-- The point above is taken, of two equally near ones the lower of which is
    `below`. -/
def Tie.goesUp (tie : Tie) (below : Nat) : Bool :=
  match tie with
  | .away => true
  | .even => below % 2 == 1

/-- A positive number and the ends of its rounding interval, all as multiples of
    `num / den`. The ends belong to the interval if it is closed. -/
structure Interval where
  low : Nat
  value : Nat
  high : Nat
  closed : Bool
  num : Nat
  den : Nat

/-- The rounding interval of `m * 2 ^ q`. Below a power of two the numbers lie
    twice as dense, so the interval reaches half as far down. -/
def interval (m : Nat) (q : Int) : Interval :=
  let low := if m = Nat.pow 2 52 ∧ -1074 < q then 4 * m - 1 else 4 * m - 2
  { low, value := 4 * m, high := 4 * m + 2, closed := m % 2 == 0
    num := Nat.pow 2 (q - 2).toNat, den := Nat.pow 2 (2 - q).toNat }

/-- The multiple `c` of `unit` lies in the interval, where all three bounds are
    multiples of `step`. -/
def Interval.contains (i : Interval) (step c unit : Nat) : Bool :=
  if i.closed then i.low * step ≤ c * unit && c * unit ≤ i.high * step
  else i.low * step < c * unit && c * unit < i.high * step

/-- The multiple of `10 ^ k` nearest to the value among the two around it that
    lie in the interval. -/
def Interval.onGrid? (i : Interval) (tie : Tie) (k : Int) : Option Nat :=
  let step := i.num * Nat.pow 10 (-k).toNat
  let unit := i.den * Nat.pow 10 k.toNat
  let below := i.value * step / unit
  let above := below + 1
  match i.contains step below unit && below != 0, i.contains step above unit with
  | true, true =>
    match compare (i.value * step - below * unit) (above * unit - i.value * step) with
    | .lt => some below
    | .gt => some above
    | .eq => some (if tie.goesUp below then above else below)
  | true, false => some below
  | false, true => some above
  | false, false => none

/-- The first of the grids `10 ^ k`, `10 ^ (k - 1)`, … that meets the interval. -/
def Interval.coarsest (i : Interval) (tie : Tie) : Nat → Int → Decimal
  | 0, k => ⟨0, k⟩
  | steps + 1, k =>
    match i.onGrid? tie k with
    | some c => ⟨c, k⟩
    | none => i.coarsest tie steps (k - 1)

/-- The shortest decimal that is read back as `m * 2 ^ q`, for the magnitude of
    a finite number other than zero. Every such number lies between
    `10 ^ -324` and `10 ^ 309`, and no decimal needs more than 17 digits. -/
def shortest (tie : Tie) (m : Nat) (q : Int) : Decimal := (interval m q).coarsest tie 660 309

/-- The decimal digits as text. -/
def digitText (d : Decimal) : String := toString d.digits

end Decimal

end RotatedShards
