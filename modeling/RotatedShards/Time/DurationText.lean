import RotatedShards.Text.Blank
import RotatedShards.Time.Duration
import RotatedShards.Time.Unit

/-!
# Durations as text

A duration is written as counts of ever smaller units, such as `1day 2h 30m`,
and read from any sequence of numbers that each carry a unit, such as
`1.5 hours 20min`. A number may have a fraction where the fraction is a whole
number of nanoseconds (up to minutes) or of seconds (from hours on).

Arithmetic is on 64-bit words: a number, a count of seconds or of nanoseconds,
and the total are refused where they do not fit.

Main definitions:

* `Duration.text`: the written form.
* `Duration.ofText`: the reader, with the first fault met from left to right.
-/

namespace RotatedShards

/-- Why a text is not a duration. Offsets count bytes of UTF-8. -/
inductive DurationFault
  | empty
  | numberExpected (offset : Nat)
  | invalidCharacter (offset : Nat)
  | tooLarge
  | unitNeeded (number : Nat)
  | unknownUnit (name : String)
deriving DecidableEq

namespace DurationFault

/-- The text of a fault. -/
def message : DurationFault → String
  | .empty => "value was empty"
  | .numberExpected offset => s!"expected number at {offset}"
  | .invalidCharacter offset => s!"invalid character at {offset}"
  | .tooLarge =>
    "number is too large or cannot be represented without a lack of precision " ++
      "(values below 1ns are not supported)"
  | .unitNeeded number => s!"time unit needed, for example {number}sec or {number}ms"
  | .unknownUnit name =>
    s!"unknown time unit \"{name}\", supported units: ns, us/µs, ms, sec, min, hours, " ++
      "days, weeks, months, years (and few variations)"

end DurationFault

namespace Duration

/-! ## Writing -/

/-- The units that a duration is broken down into, largest first. -/
def writtenUnits : List TimeUnit :=
  [.year, .month, .day, .hour, .minute, .second, .millisecond, .microsecond, .nanosecond]

/-- `nanos` as counts of the given units, each taking what the ones before it
    left over. Units that do not occur are left out. -/
def breakdown : List TimeUnit → Nat → List (Nat × TimeUnit)
  | [], _ => []
  | u :: rest, nanos =>
    if nanos / u.nanos = 0 then breakdown rest nanos
    else (nanos / u.nanos, u) :: breakdown rest (nanos % u.nanos)

/-- The written form: the breakdown, joined by spaces, and `0s` for no time. -/
def text (d : Duration) : String :=
  if d.nanos = 0 then "0s"
  else " ".intercalate ((breakdown writtenUnits d.nanos).map fun (count, u) =>
    toString count ++ u.label count)

/-! ## Amounts -/

/-- The number, if it fits a 64-bit word. -/
def word? (n : Nat) : Option Nat := if n < 18446744073709551616 then some n else none

/-- `n` units as seconds and nanoseconds. Units shorter than a second are
    counted in nanoseconds, the others in seconds. -/
def wholeParts? (n : Nat) (u : TimeUnit) : Option (Nat × Nat) :=
  if u.nanos < 1000000000 then (word? (n * u.nanos)).map fun nanos => (0, nanos)
  else (word? (n * (u.nanos / 1000000000))).map fun secs => (secs, 0)

/-- `num / den` of a unit as seconds and nanoseconds, which has to come out
    even: in nanoseconds up to minutes, in seconds from hours on. Nothing is
    less than a nanosecond. -/
def fractionParts? (num den : Nat) (u : TimeUnit) : Option (Nat × Nat) :=
  let exactly (n : Nat) : Option Nat := do
    let n ← word? n
    if n % den = 0 then some (n / den) else none
  if u = .nanosecond then none
  else if u.nanos < 3600 * 1000000000 then (exactly (num * u.nanos)).map fun nanos => (0, nanos)
  else (exactly (num * (u.nanos / 1000000000))).map fun secs => (secs, 0)

/-- A running total with further seconds and nanoseconds. The nanoseconds past
    the total's seconds have to fit a word together with the new ones. -/
def extend? (total : Duration) (parts : Nat × Nat) : Option Duration := do
  let nanos ← word? (total.subsecondNanos + parts.2)
  ofParts? (total.seconds + parts.1) nanos

/-- A running total with `n` units more, and a fraction of one if given. The
    letters of the unit come last to first. -/
def extendBy (total : Duration) (n : Nat) (fraction : Option (Nat × Nat)) (letters : List Char) :
    Except DurationFault Duration :=
  let name := String.ofList letters.reverse
  if letters.isEmpty then .error (.unitNeeded n)
  else match TimeUnit.ofName? name with
    | none => .error (.unknownUnit name)
    | some u =>
      let sum := do
        let total ← extend? total (← wholeParts? n u)
        match fraction with
        | none => some total
        | some (num, den) => extend? total (← fractionParts? num den u)
      match sum with
      | none => .error .tooLarge
      | some total => .ok total

/-! ## Reading -/

/-- Where the reader stands: before a number (with the offset it started to look
    from, and whether it is the first), inside a number, inside its fraction
    (with the offset that a fault in it is reported at), or inside a unit. -/
inductive Reading
  | beforeNumber (first : Bool) (since : Nat)
  | inNumber (n : Nat)
  | inFraction (n num den mark : Nat)
  | inUnit (n : Nat) (fraction : Option (Nat × Nat)) (letters : List Char)

/-- The value of a decimal digit. -/
def digit? (c : Char) : Option Nat := if c.isDigit then some (c.toNat - 48) else none

/-- Letters of units: the ASCII letters and the micro sign. -/
def isUnitLetter (c : Char) : Bool := c.isAlpha || c == 'µ'

/-- A number with one more digit, if it fits a word. -/
def appendDigit (n d : Nat) : Except DurationFault Nat :=
  match word? (n * 10 + d) with
  | some n => .ok n
  | none => .error .tooLarge

/-- What the end of the text means. -/
def finish (total : Duration) : Reading → Except DurationFault Duration
  | .beforeNumber true _ => .error .empty
  | .beforeNumber false _ => .ok total
  | .inNumber n => extendBy total n none []
  | .inFraction n num den mark =>
    if den = 1 then .error (.invalidCharacter mark) else extendBy total n (some (num, den)) []
  | .inUnit n fraction letters => extendBy total n fraction letters

/-- One character, at byte `offset`: the total and the position after it. -/
def advance (total : Duration) (offset : Nat) (c : Char) :
    Reading → Except DurationFault (Duration × Reading)
  | .beforeNumber first since =>
    match digit? c with
    | some d => .ok (total, .inNumber d)
    | none =>
      if Text.isBlank c then .ok (total, .beforeNumber first since)
      else .error (.numberExpected since)
  | .inNumber n =>
    match digit? c with
    | some d => (appendDigit n d).map fun n => (total, .inNumber n)
    | none =>
      if Text.isBlank c then .ok (total, .inNumber n)
      else if isUnitLetter c then .ok (total, .inUnit n none [c])
      else if c = '.' then .ok (total, .inFraction n 0 1 offset)
      else .error (.invalidCharacter offset)
  | .inFraction n num den mark =>
    match digit? c with
    | some d => do
      let den ← appendDigit den 0
      let num ← appendDigit num d
      .ok (total, .inFraction n num den (offset + c.utf8Size))
    | none =>
      if Text.isBlank c then .ok (total, .inFraction n num den (offset + c.utf8Size))
      else if isUnitLetter c && den != 1 then .ok (total, .inUnit n (some (num, den)) [c])
      else .error (.invalidCharacter mark)
  | .inUnit n fraction letters =>
    match digit? c with
    | some d => (extendBy total n fraction letters).map fun total => (total, .inNumber d)
    | none =>
      if Text.isBlank c then
        (extendBy total n fraction letters).map fun total =>
          (total, .beforeNumber false (offset + c.utf8Size))
      else if isUnitLetter c then .ok (total, .inUnit n fraction (c :: letters))
      else .error (.invalidCharacter offset)

/-- Reads characters from byte `offset` on. -/
def readFrom (total : Duration) (offset : Nat) (position : Reading) :
    List Char → Except DurationFault Duration
  | [] => finish total position
  | c :: rest =>
    match advance total offset c position with
    | .error fault => .error fault
    | .ok (total, position) => readFrom total (offset + c.utf8Size) position rest

/-- Reads a duration. A lone `0` needs no unit. -/
def ofText (s : String) : Except DurationFault Duration :=
  if s = "0" then .ok zero else readFrom zero 0 (.beforeNumber true 0) s.toList

end Duration

end RotatedShards
