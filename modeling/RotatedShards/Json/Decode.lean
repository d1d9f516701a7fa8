import RotatedShards.Json
import RotatedShards.Time.DurationText

/-!
# Reading typed values from JSON

Readers for numbers, texts and durations, and for the two shapes that structured
values take: a choice between named alternatives, and a record of named fields.
A reader reports the first fault it meets.

Main definitions:

* `DecodeError`: the faults, with their texts in `DecodeError.message`.
* `Json.choice`: a named alternative, as a bare name or with a payload.
* `Json.record`: a record, as an object or as an array of its fields in order.
-/

namespace RotatedShards

/-- What a reader wants. -/
inductive Wanted
  | signed32
  | signed64
  | byte
  | word
  | size
  | float
  | text
  | truth
  | sequence
  | unit
  | choice
  | record (name : String)
deriving DecidableEq

/-- The name of what a reader wants. -/
def Wanted.name : Wanted → String
  | .signed32 => "i32"
  | .signed64 => "i64"
  | .byte => "u8"
  | .word => "u64"
  | .size => "usize"
  | .float => "f64"
  | .text => "a string"
  | .truth => "a boolean"
  | .sequence => "a sequence"
  | .unit => "unit"
  | .choice => "string or map"
  | .record name => "struct " ++ name

/-- Why a JSON value is not a value of the wanted type. -/
inductive DecodeError
  | wrongKind (found : Json) (wanted : Wanted)
  | outOfRange (n : Int) (wanted : Wanted)
  | notOneMember
  | unknownAlternative (name : String) (known : List String)
  | payloadMissing
  | tooManyElements (count : Nat)
  | duration (fault : DurationFault)

namespace DecodeError

/-- The text of a fault. -/
def message : DecodeError → String
  | .wrongKind found wanted => s!"invalid type: {found.kind}, expected {wanted.name}"
  | .outOfRange n wanted => s!"invalid value: integer `{n}`, expected {wanted.name}"
  | .notOneMember => "invalid value: map, expected map with a single key"
  | .unknownAlternative name known =>
    let names := ", ".intercalate (known.map fun k => "`" ++ k ++ "`")
    s!"unknown variant `{name}`, expected one of {names}"
  | .payloadMissing => "invalid type: unit variant, expected newtype variant"
  | .tooManyElements count =>
    s!"invalid length {count}, expected fewer elements in array"
  | .duration fault => fault.message

end DecodeError

namespace Json

/-! ## Scalars -/

/-- A whole number within bounds, both included. -/
def integer (wanted : Wanted) (low high : Int) : Json → Except DecodeError Int
  | .int n => if low ≤ n ∧ n ≤ high then .ok n else .error (.outOfRange n wanted)
  | found => .error (.wrongKind found wanted)

/-- A signed 32-bit number. -/
def signed32 (j : Json) : Except DecodeError Int32 :=
  (j.integer .signed32 (-2147483648) 2147483647).map Int32.ofInt

/-- A signed 64-bit number. -/
def signed64 (j : Json) : Except DecodeError Int64 :=
  (j.integer .signed64 (-9223372036854775808) 9223372036854775807).map Int64.ofInt

/-- A byte. -/
def byte (j : Json) : Except DecodeError UInt8 :=
  (j.integer .byte 0 255).map fun n => UInt8.ofNat n.toNat

/-- An unsigned 64-bit number. -/
def word (j : Json) : Except DecodeError UInt64 :=
  (j.integer .word 0 18446744073709551615).map fun n => UInt64.ofNat n.toNat

/-- A count, which is an unsigned 64-bit number. -/
def size (j : Json) : Except DecodeError UInt64 :=
  (j.integer .size 0 18446744073709551615).map fun n => UInt64.ofNat n.toNat

/-- A floating-point number, or the nearest one to a whole number. -/
def binary64 : Json → Except DecodeError Binary64
  | .float x => .ok x
  | .int n => .ok (.ofInt n)
  | found => .error (.wrongKind found .float)

/-- A text. -/
def text : Json → Except DecodeError String
  | .str s => .ok s
  | found => .error (.wrongKind found .text)

/-- A truth value. -/
def truth : Json → Except DecodeError Bool
  | .bool b => .ok b
  | found => .error (.wrongKind found .truth)

/-- A list of items of one type. -/
def sequence {α : Type} (item : Json → Except DecodeError α) :
    Json → Except DecodeError (List α)
  | .arr items => items.mapM item
  | found => .error (.wrongKind found .sequence)

/-- Nothing, which is written as null. -/
def nothing : Json → Except DecodeError Unit
  | .null => .ok ()
  | found => .error (.wrongKind found .unit)

/-- A value that may be left out by writing null. -/
def nullable {α : Type} (value : Json → Except DecodeError α) :
    Json → Except DecodeError (Option α)
  | .null => .ok none
  | j => (value j).map some

/-- A duration in its written form. -/
def duration (j : Json) : Except DecodeError Duration := do
  match Duration.ofText (← j.text) with
  | .ok d => .ok d
  | .error fault => .error (.duration fault)

/-! ## Structured values -/

/-- The name of an alternative and its payload: a bare name, or an object whose
    only member is named for it. -/
def choice : Json → Except DecodeError (String × Option Json)
  | .str name => .ok (name, none)
  | .obj [(name, payload)] => .ok (name, some payload)
  | .obj _ => .error .notOneMember
  | found => .error (.wrongKind found .choice)

/-- A record of the given name and fields, read into `start` one field at a time
    by `set`: an object with some of the fields, in the order of its members, or
    an array with the first of them, in their own order. Fields that are left
    out keep their value, and members with other names are passed over. -/
def record {α : Type} (name : String) (fields : List String) (start : α)
    (set : α → String → Json → Except DecodeError α) : Json → Except DecodeError α
  | .obj members => members.foldlM (fun a (field, j) => set a field j) start
  | .arr items => do
    let a ← (fields.zip items).foldlM (fun a (field, j) => set a field j) start
    if fields.length < items.length then .error (.tooManyElements items.length) else .ok a
  | found => .error (.wrongKind found (.record name))

end Json

end RotatedShards
