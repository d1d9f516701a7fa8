import RotatedShards.Decimal.Shortest

/-!
# Layouts of decimals

How the shortest decimal of a binary number is written: positionally, with every
zero up to the point, or with an exponent of ten. What is left to decide is
gathered in one record for each format.

Main definitions:

* `NumberLayout`: the decisions of a format.
* `Binary64.write`: the text of a number in a format.
-/

namespace RotatedShards

namespace Decimal

/-- `n` zeros. -/
def zeros (n : Nat) : String := String.ofList (List.replicate n '0')

/-- The decimal written out, with `whole` after a number without a fraction. -/
def positional (d : Decimal) (whole : String) : String :=
  let digits := d.digitText
  if 0 ≤ d.exponent then digits ++ zeros d.exponent.toNat ++ whole
  else
    let places := (-d.exponent).toNat
    if digits.length ≤ places then "0." ++ zeros (places - digits.length) ++ digits
    else
      let cs := digits.toList
      String.ofList (cs.take (cs.length - places)) ++ "." ++
        String.ofList (cs.drop (cs.length - places))

/-- The exponent of ten of the first digit. -/
def magnitude (d : Decimal) : Int := d.exponent + d.digitText.length - 1

/-- One digit before the point, the others after it, and the exponent of ten,
    with `plus` before one that is not negative. -/
def scientific (d : Decimal) (plus : String) : String :=
  let cs := d.digitText.toList
  let point := if cs.length ≤ 1 then "" else "."
  let sign := if d.magnitude < 0 then "" else plus
  String.ofList (cs.take 1) ++ point ++ String.ofList (cs.drop 1) ++ "e" ++ sign ++
    toString d.magnitude

end Decimal

/-- The decisions of a number format: which of two equally near decimals is
    written, which exponents of the first digit are written positionally (from
    the first one to below the second, or all of them), what follows a number
    without a fraction there, and what precedes an exponent that is not
    negative. -/
structure NumberLayout where
  tie : Decimal.Tie
  positional : Option (Int × Int)
  whole : String
  plus : String
deriving DecidableEq

/-- A decimal whose first digit has the given exponent is written positionally. -/
def NumberLayout.isPositional (l : NumberLayout) (magnitude : Int) : Bool :=
  match l.positional with
  | some (least, bound) => least ≤ magnitude && magnitude < bound
  | none => true

/-- A decimal as text. -/
def NumberLayout.layOut (l : NumberLayout) (d : Decimal) : String :=
  if l.isPositional d.magnitude then d.positional l.whole else d.scientific l.plus

/-- The text of a number. -/
def Binary64.write (l : NumberLayout) (x : Binary64) : String :=
  if x.isNaN then "NaN"
  else
    let sign := if x.negative then "-" else ""
    if !x.isFinite then sign ++ "inf"
    else if x.isZero then sign ++ "0" ++ l.whole
    else sign ++ l.layOut (Decimal.shortest l.tie x.scaled.1 x.scaled.2)

end RotatedShards
