import RotatedShards.Decimal.Layout
import RotatedShards.Text.Record
import RotatedShards.Text.Quoted
import RotatedShards.Time.Instant

/-!
# Values

Values that are bound to the slots of a statement or read from a row. A slot
that was never bound and a slot bound to nothing both hold `Value.null`.

Main definitions:

* `Value.eq`: equality, in which floating-point numbers compare as numbers.
* `Value.ofInstant`: an instant in milliseconds.
* `Value.display`, `Value.shown`: the value for a reader and for an operator.
-/

namespace RotatedShards

/-- A value. Timestamps count milliseconds since the Unix epoch. -/
inductive Value
  | null
  | boolean (b : Bool)
  | integer (n : Int64)
  | float (x : Binary64)
  | text (s : String)
  | bytes (bs : List UInt8)
  | timestamp (millis : Int64)
  | list (items : List Value)

namespace Value

instance : Inhabited Value := ⟨.null⟩

/-! ## Views -/

/-- The value is null. -/
def isNull : Value → Bool
  | .null => true
  | _ => false

/-- The truth value that this is. -/
def asBool? : Value → Option Bool
  | .boolean b => some b
  | _ => none

/-- The whole number that this is, a timestamp in milliseconds. -/
def asInt? : Value → Option Int64
  | .integer n | .timestamp n => some n
  | _ => none

/-- The floating-point number that this is or is nearest to. -/
def asFloat? : Value → Option Binary64
  | .float x => some x
  | .integer n => some (.ofInt n.toInt)
  | _ => none

/-- `as_str`: the text that this is. -/
def asText? : Value → Option String
  | .text s => some s
  | _ => none

/-- The bytes that this is. -/
def asBytes? : Value → Option (List UInt8)
  | .bytes bs => some bs
  | _ => none

/-! ## Equality -/

mutual

/-- Equality of values. Floating-point numbers compare as numbers, so a value
    with a NaN in it does not equal itself. -/
def eq : Value → Value → Bool
  | .null, .null => true
  | .boolean a, .boolean b => a == b
  | .integer a, .integer b => a == b
  | .float a, .float b => a.ieeeEq b
  | .text a, .text b => a == b
  | .bytes a, .bytes b => a == b
  | .timestamp a, .timestamp b => a == b
  | .list a, .list b => eqAll a b
  | _, _ => false

/-- Equality of lists of values, item by item. -/
def eqAll : List Value → List Value → Bool
  | [], [] => true
  | a :: as, b :: bs => eq a b && eqAll as bs
  | _, _ => false

end

instance : BEq Value := ⟨eq⟩

/-! ## Conversion -/

/-- The whole milliseconds of a duration, or the largest number if they do not fit. -/
def millis (d : Duration) : Int64 :=
  let whole := d.nanos / 1000000
  if whole ≤ 9223372036854775807 then .ofNat whole else .maxValue

/-- Milliseconds since the Unix epoch. Of an instant before it those that are left until then
    are taken, and made negative. -/
def ofInstant (t : Instant) : Value :=
  .timestamp <|
    if 0 ≤ t.nanos then millis (t.since .unixEpoch) else -millis (Instant.unixEpoch.since t)

/-- A value that may be missing. -/
def ofOption {α : Type} (convert : α → Value) : Option α → Value
  | some a => convert a
  | none => .null

/-! ## Text -/

/-- For a reader numbers are written positionally throughout, whole ones without a
    point. -/
def displayLayout : NumberLayout :=
  { tie := .away, positional := none, whole := "", plus := "" }

/-- For an operator numbers are written positionally from `10^-4` to below `10^16`,
    whole ones with a zero after the point, and with an exponent elsewhere. -/
def shownLayout : NumberLayout :=
  { tie := .away, positional := some (-4, 16), whole := ".0", plus := "" }

mutual

/-- The value for a reader. -/
def display : Value → String
  | .null => "NULL"
  | .boolean b => Text.truth b
  | .integer n => toString n.toInt
  | .float x => x.write displayLayout
  | .text s => "'" ++ s ++ "'"
  | .bytes bs => s!"<{bs.length} bytes>"
  | .timestamp ms => toString ms.toInt ++ "ms"
  | .list items => Text.listed (displayAll items)

/-- The values for a reader. -/
def displayAll : List Value → List String
  | [] => []
  | v :: vs => display v :: displayAll vs

end

mutual

/-- The value as shown to an operator. -/
def shown : Value → String
  | .null => "Null"
  | .boolean b => Text.tagged "Boolean" (Text.truth b)
  | .integer n => Text.tagged "Integer" (toString n.toInt)
  | .float x => Text.tagged "Float" (x.write shownLayout)
  | .text s => Text.tagged "Text" (Text.quoted s)
  | .bytes bs => Text.tagged "Bytes" (Text.listed (bs.map fun b => toString b.toNat))
  | .timestamp ms => Text.tagged "Timestamp" (toString ms.toInt)
  | .list items => Text.tagged "List" (Text.listed (shownAll items))

/-- The values as shown to an operator. -/
def shownAll : List Value → List String
  | [] => []
  | v :: vs => shown v :: shownAll vs

end

end Value

end RotatedShards
