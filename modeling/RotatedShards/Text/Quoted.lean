import RotatedShards.Text.Hidden

/-!
# Quoted text

A text between double quotes, in which quotes, backslashes and characters that
show no glyph of their own are escaped, so that it can be read off a line.
-/

namespace RotatedShards.Text

/-- The code point of a character in lower-case hexadecimal. -/
def hexCode (c : Char) : String := String.ofList (Nat.toDigits 16 c.toNat)

/-- One character of a quoted text. -/
def escape (c : Char) : String :=
  if c = '"' then "\\\""
  else if c = '\\' then "\\\\"
  else if c = '\n' then "\\n"
  else if c = '\t' then "\\t"
  else if c = '\r' then "\\r"
  else if c.toNat = 0 then "\\0"
  else if ' ' ≤ c && c ≤ '~' then c.toString
  else if isHidden c then "\\u\x7b" ++ hexCode c ++ "\x7d"
  else c.toString

/-- The text between double quotes. -/
def quoted (s : String) : String := "\"" ++ String.join (s.toList.map escape) ++ "\""

end RotatedShards.Text
