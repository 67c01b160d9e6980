/-!
# Durations

A span of time in whole seconds, fewer than 2⁶⁴ of them, and nanoseconds below one second. The view
of a duration is its number of nanoseconds; comparisons of the timing detector look only at whole
microseconds. `render` writes a duration exactly, in the largest of the units s, ms, µs and ns of
which it holds at least one.
-/

namespace ProcessIntegrity

structure Duration where
  secs : Nat
  nanos : Nat
  secs_lt : secs < UInt64.size := by decide
  nanos_lt : nanos < 1000000000 := by decide
  deriving DecidableEq, Repr

namespace Duration

def toNanos (d : Duration) : Nat :=
  d.secs * 1000000000 + d.nanos

/-- Whole microseconds; the rest of a microsecond is dropped. -/
def wholeMicros (d : Duration) : Nat :=
  d.secs * 1000000 + d.nanos / 1000

/-- The duration of so many nanoseconds, if it has fewer than 2⁶⁴ seconds. -/
def ofNanos? (n : Nat) : Option Duration :=
  if h : n / 1000000000 < UInt64.size then
    some ⟨n / 1000000000, n % 1000000000, h, Nat.mod_lt n (by decide)⟩
  else
    none

def ofMicros (n : Nat) (h : n < UInt64.size) : Duration where
  secs := n / 1000000
  nanos := n % 1000000 * 1000
  secs_lt := Nat.lt_of_le_of_lt (Nat.div_le_self n _) h
  nanos_lt := by omega

def zero : Duration := ⟨0, 0, by decide, by decide⟩

/-! ## Written form -/

/-- The digits of `part`, a number of `width` digits, behind a point; zeros at the end are dropped,
and the point with them when none is left. -/
def fraction (width part : Nat) : List Char :=
  let digits := Nat.toDigits 10 part
  let padded := List.replicate (width - digits.length) '0' ++ digits
  let kept := (padded.reverse.dropWhile (· == '0')).reverse
  if kept = [] then [] else '.' :: kept

/-- So many `whole` units and `part` of the 10^`width` parts of one. -/
def amount (whole width part : Nat) (unit : List Char) : List Char :=
  Nat.toDigits 10 whole ++ fraction width part ++ unit

def renderChars (d : Duration) : List Char :=
  if 0 < d.secs then
    amount d.secs 9 d.nanos ['s']
  else if 1000000 ≤ d.nanos then
    amount (d.nanos / 1000000) 6 (d.nanos % 1000000) ['m', 's']
  else if 1000 ≤ d.nanos then
    amount (d.nanos / 1000) 3 (d.nanos % 1000) ['µ', 's']
  else
    amount d.nanos 0 0 ['n', 's']

def render (d : Duration) : String :=
  String.ofList d.renderChars

/-! ## The view in nanoseconds -/

theorem toNanos_ofNanos? {n : Nat} {d : Duration} (h : ofNanos? n = some d) : d.toNanos = n := by
  unfold ofNanos? at h
  split at h
  · cases h
    simp only [toNanos]
    omega
  · contradiction

theorem ofNanos?_toNanos (d : Duration) : ofNanos? d.toNanos = some d := by
  have secs : d.toNanos / 1000000000 = d.secs := by
    have := d.nanos_lt
    simp only [toNanos]
    omega
  have nanos : d.toNanos % 1000000000 = d.nanos := by
    have := d.nanos_lt
    simp only [toNanos]
    omega
  simp only [ofNanos?, secs, nanos]
  exact dif_pos d.secs_lt

theorem wholeMicros_eq (d : Duration) : d.wholeMicros = d.toNanos / 1000 := by
  simp only [wholeMicros, toNanos]
  omega

theorem wholeMicros_ofMicros {n : Nat} (h : n < UInt64.size) : (ofMicros n h).wholeMicros = n := by
  simp only [ofMicros, wholeMicros]
  omega

end Duration

end ProcessIntegrity
