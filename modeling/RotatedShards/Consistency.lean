import RotatedShards.Json.Decode

/-!
# Consistency levels

How many replicas have to answer a statement. The serial levels apply to
conditional writes only.
-/

namespace RotatedShards

/-- A consistency level. -/
inductive Consistency
  | any
  | one
  | two
  | three
  | quorum
  | all
  | localQuorum
  | eachQuorum
  | localOne
  | serial
  | localSerial
deriving DecidableEq

namespace Consistency

/-- Every level. -/
def levels : List Consistency :=
  [.any, .one, .two, .three, .quorum, .all, .localQuorum, .eachQuorum, .localOne, .serial,
    .localSerial]

/-- `is_serial`: the level applies to conditional writes. -/
def isSerial : Consistency → Bool
  | .serial | .localSerial => true
  | _ => false

/-- The name of a level in the query language. -/
def name : Consistency → String
  | .any => "ANY"
  | .one => "ONE"
  | .two => "TWO"
  | .three => "THREE"
  | .quorum => "QUORUM"
  | .all => "ALL"
  | .localQuorum => "LOCAL_QUORUM"
  | .eachQuorum => "EACH_QUORUM"
  | .localOne => "LOCAL_ONE"
  | .serial => "SERIAL"
  | .localSerial => "LOCAL_SERIAL"

/-- The level as shown to an operator. -/
def shown : Consistency → String
  | .any => "Any"
  | .one => "One"
  | .two => "Two"
  | .three => "Three"
  | .quorum => "Quorum"
  | .all => "All"
  | .localQuorum => "LocalQuorum"
  | .eachQuorum => "EachQuorum"
  | .localOne => "LocalOne"
  | .serial => "Serial"
  | .localSerial => "LocalSerial"

/-- The level with a given name. -/
def ofName? (name : String) : Option Consistency := levels.find? fun level => level.name = name

/-- The wire form, the name. -/
def toJson (level : Consistency) : Json := .str level.name

/-- Reads the wire form: a name, which may carry a null payload. -/
def ofJson (j : Json) : Except DecodeError Consistency := do
  let (name, payload) ← j.choice
  match ofName? name with
  | none => .error (.unknownAlternative name (levels.map Consistency.name))
  | some level =>
    match payload with
    | none => .ok level
    | some payload => payload.nothing.map fun _ => level

end Consistency

end RotatedShards
