import RotatedShards.Decimal.Layout
import RotatedShards.Text.Quoted

/-!
# JSON values

The tree of a JSON text. Whole numbers and numbers written with a fraction or an
exponent are kept apart, since readers of configuration tell them apart.
-/

namespace RotatedShards

/-- A JSON value. -/
inductive Json
  | null
  | bool (b : Bool)
  | int (n : Int)
  | float (x : Binary64)
  | str (s : String)
  | arr (items : List Json)
  | obj (fields : List (String × Json))

namespace Json

/-- Of neighbouring members of one name the last. -/
def keepLast : List (String × Json) → List (String × Json)
  | [] => []
  | a :: rest =>
    match keepLast rest with
    | [] => [a]
    | b :: rest => if a.1 = b.1 then b :: rest else a :: b :: rest

/-- An object from its members as written: in ascending order of their names,
    of several members of one name the last. -/
def ofMembers (members : List (String × Json)) : Json :=
  .obj (keepLast (members.mergeSort fun a b => a.1 ≤ b.1))

/-- Numbers are written positionally from `10^-5` to below `10^16`, and with a
    signed exponent elsewhere. There is always a fraction or an exponent, and of
    two equally near decimals the one with an even last digit is written. -/
def numberLayout : NumberLayout :=
  { tie := .even, positional := some (-5, 16), whole := ".0", plus := "+" }

/-- What kind of value this is, in the words of a reader that wants another. -/
def kind : Json → String
  | .null => "null"
  | .bool b => s!"boolean `{b}`"
  | .int n => s!"integer `{n}`"
  | .float x => s!"floating point `{x.write numberLayout}`"
  | .str s => s!"string {Text.quoted s}"
  | .arr _ => "sequence"
  | .obj _ => "map"

end Json

end RotatedShards
