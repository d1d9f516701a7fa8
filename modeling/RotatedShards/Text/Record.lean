/-!
# Records and lists as text

The layout in which values of the engine are shown to an operator:
`Name { field: value, field: value }`, `[item, item]` and `Some(value)`.
-/

namespace RotatedShards.Text

/-- A record with its named fields in order. -/
def record (name : String) (fields : List (String × String)) : String :=
  let shown := fields.map fun (field, value) => field ++ ": " ++ value
  name ++ " \x7b " ++ ", ".intercalate shown ++ " \x7d"

/-- A list between brackets. -/
def listed (items : List String) : String := "[" ++ ", ".intercalate items ++ "]"

/-- A value under the name of its kind. -/
def tagged (name value : String) : String := name ++ "(" ++ value ++ ")"

/-- An optional value. -/
def optional (value : Option String) : String :=
  match value with
  | none => "None"
  | some value => tagged "Some" value

/-- A truth value. -/
def truth (b : Bool) : String := if b then "true" else "false"

end RotatedShards.Text
