import ProcessIntegrity.Duration
/-!
# Units of time

The units a duration can be written in, the names each goes by, and what one of each is worth.
-/

namespace ProcessIntegrity.Duration

/-- A unit of time. A month and a year are average ones: a twelfth of, and 365.25 days. -/
inductive TimeUnit where
  | nanosecond
  | microsecond
  | millisecond
  | second
  | minute
  | hour
  | day
  | week
  | month
  | year
  deriving DecidableEq, Repr

namespace TimeUnit

def all : List TimeUnit :=
  [nanosecond, microsecond, millisecond, second, minute, hour, day, week, month, year]

/-- The names of a unit; letter case matters. -/
def names : TimeUnit → List String
  | nanosecond => ["nanos", "nsec", "ns"]
  | microsecond => ["usec", "us", "µs"]
  | millisecond => ["millis", "msec", "ms"]
  | second => ["seconds", "second", "secs", "sec", "s"]
  | minute => ["minutes", "minute", "min", "mins", "m"]
  | hour => ["hours", "hour", "hr", "hrs", "h"]
  | day => ["days", "day", "d"]
  | week => ["weeks", "week", "wk", "wks", "w"]
  | month => ["months", "month", "M"]
  | year => ["years", "year", "yr", "yrs", "y"]

def named? (name : String) : Option TimeUnit :=
  all.find? fun u => u.names.contains name

/-- What whole numbers of a unit are counted in: units below a second in nanoseconds, the others in
seconds, with the number of these that one unit is worth. -/
inductive Worth where
  | nanos (perUnit : Nat)
  | secs (perUnit : Nat)
  deriving DecidableEq, Repr

def wholeWorth : TimeUnit → Worth
  | nanosecond => .nanos 1
  | microsecond => .nanos 1000
  | millisecond => .nanos 1000000
  | second => .secs 1
  | minute => .secs 60
  | hour => .secs 3600
  | day => .secs 86400
  | week => .secs 604800
  | month => .secs 2630016
  | year => .secs 31557600

/-- How a fraction of the unit is counted. A nanosecond has none; of a second and of a minute it is
counted in nanoseconds, of longer units in seconds. -/
def fractionWorth? : TimeUnit → Option Worth
  | nanosecond => none
  | second => some (.nanos 1000000000)
  | minute => some (.nanos 60000000000)
  | unit => some unit.wholeWorth

def inNanos (u : TimeUnit) : Nat :=
  match u.wholeWorth with
  | .nanos n => n
  | .secs n => n * 1000000000

end TimeUnit

end ProcessIntegrity.Duration
