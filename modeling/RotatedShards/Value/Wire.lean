import RotatedShards.Json.Decode
import RotatedShards.Value

/-!
# The wire form of values

A value is written as an object that names its kind, null as the bare name. JSON
has no spelling for infinities and NaN, so these are written as null, which is
not read back as a number.

Main definitions:

* `Value.toJson`, `Value.ofJson`: writing and reading the wire form.
-/

namespace RotatedShards.Value

/-- The names of the kinds of values. -/
def kinds : List String :=
  ["Null", "Boolean", "Integer", "Float", "Text", "Bytes", "Timestamp", "List"]

mutual

/-- The wire form of a value. -/
def toJson : Value → Json
  | .null => .str "Null"
  | .boolean b => .obj [("Boolean", .bool b)]
  | .integer n => .obj [("Integer", .int n.toInt)]
  | .float x => .obj [("Float", if x.isFinite then .float x else .null)]
  | .text s => .obj [("Text", .str s)]
  | .bytes bs => .obj [("Bytes", .arr (bs.map fun b => .int b.toNat))]
  | .timestamp ms => .obj [("Timestamp", .int ms.toInt)]
  | .list items => .obj [("List", .arr (toJsonAll items))]

/-- The wire forms of values. -/
def toJsonAll : List Value → List Json
  | [] => []
  | v :: vs => toJson v :: toJsonAll vs

end

/-- Reads a value that is not a list, given the name of its kind. -/
def ofPayload (kind : String) (payload : Json) : Except DecodeError Value :=
  match kind with
  | "Null" => payload.nothing.map fun _ => .null
  | "Boolean" => payload.truth.map .boolean
  | "Integer" => payload.signed64.map .integer
  | "Float" => payload.binary64.map .float
  | "Text" => payload.text.map .text
  | "Bytes" => (payload.sequence Json.byte).map .bytes
  | "Timestamp" => payload.signed64.map .timestamp
  | "List" => .error (.wrongKind payload .sequence)
  | name => .error (.unknownAlternative name kinds)

/-- Reads a bare name. Only null needs no payload. -/
def ofBareName (kind : String) : Except DecodeError Value :=
  if kind = "Null" then .ok .null
  else if kinds.contains kind then .error .payloadMissing
  else .error (.unknownAlternative kind kinds)

mutual

/-- Reads the wire form of a value. -/
def ofJson : Json → Except DecodeError Value
  | .obj [("List", .arr items)] => (ofJsonAll items).map .list
  | .obj [(kind, payload)] => ofPayload kind payload
  | .str kind => ofBareName kind
  | .obj _ => .error .notOneMember
  | found => .error (.wrongKind found .choice)

/-- Reads the wire forms of values. -/
def ofJsonAll : List Json → Except DecodeError (List Value)
  | [] => .ok []
  | j :: rest => do
    let v ← ofJson j
    let vs ← ofJsonAll rest
    .ok (v :: vs)

end

end RotatedShards.Value
