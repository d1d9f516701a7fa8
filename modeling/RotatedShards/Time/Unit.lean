/-!
# Units of time

The units that a duration may be written in, their lengths and their spellings.
Units are case-sensitive, `m` is a minute and `M` a month. A year is 365.25
days, and a month is 30.44 days.
-/

namespace RotatedShards

/-- A unit of time. -/
inductive TimeUnit
  | nanosecond
  | microsecond
  | millisecond
  | second
  | minute
  | hour
  | day
  | week
  | month
  | year
deriving DecidableEq

namespace TimeUnit

/-- The length of a unit in nanoseconds. -/
def nanos : TimeUnit → Nat
  | .nanosecond => 1
  | .microsecond => 1000
  | .millisecond => 1000000
  | .second => 1000000000
  | .minute => 60 * 1000000000
  | .hour => 3600 * 1000000000
  | .day => 86400 * 1000000000
  | .week => 604800 * 1000000000
  | .month => 2630016 * 1000000000
  | .year => 31557600 * 1000000000

/-- The spellings that are read as a unit. -/
def names : TimeUnit → List String
  | .nanosecond => ["nanos", "nsec", "ns"]
  | .microsecond => ["usec", "us", "µs"]
  | .millisecond => ["millis", "msec", "ms"]
  | .second => ["seconds", "second", "secs", "sec", "s"]
  | .minute => ["minutes", "minute", "min", "mins", "m"]
  | .hour => ["hours", "hour", "hr", "hrs", "h"]
  | .day => ["days", "day", "d"]
  | .week => ["weeks", "week", "wk", "wks", "w"]
  | .month => ["months", "month", "M"]
  | .year => ["years", "year", "yr", "yrs", "y"]

/-- Every unit. -/
def all : List TimeUnit :=
  [.nanosecond, .microsecond, .millisecond, .second, .minute, .hour, .day, .week, .month, .year]

/-- The unit with a given spelling. -/
def ofName? (name : String) : Option TimeUnit := all.find? fun u => u.names.contains name

/-- The label that follows `count` of a unit where durations are written. -/
def label (count : Nat) : TimeUnit → String
  | .nanosecond => "ns"
  | .microsecond => "us"
  | .millisecond => "ms"
  | .second => "s"
  | .minute => "m"
  | .hour => "h"
  | .day => if count = 1 then "day" else "days"
  | .week => if count = 1 then "week" else "weeks"
  | .month => if count = 1 then "month" else "months"
  | .year => if count = 1 then "year" else "years"

theorem nanos_pos (u : TimeUnit) : 0 < u.nanos := by cases u <;> decide

end TimeUnit

end RotatedShards
