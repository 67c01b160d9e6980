import ProcessIntegrity.Duration.TimeUnit
import ProcessIntegrity.Text.Blank
import ProcessIntegrity.Text.Decimal
/-!
# Durations as spans

A duration is written as spans, each a number and a unit: `1h 30m`, `2.5 ms`. Blanks may stand
between the parts and between the digits of a number; the spans add up. Every step is checked: a
number that does not fit 64 bits, or a fraction that is no whole number of what its unit is counted
in, is refused and never rounded. Faults carry the byte offset at which reading stopped.
-/

namespace ProcessIntegrity.Duration

inductive Fault where
  /-- There is no span at all. -/
  | empty
  /-- A span starts with something else than a digit. -/
  | numberExpected (offset : Nat)
  | invalidCharacter (offset : Nat)
  /-- A number does not fit, or a fraction is not exact. -/
  | numberTooLarge
  /-- The last number has no unit; `number` is its whole part. -/
  | unitMissing (number : Nat)
  | unknownUnit (name : String)
  /-- The sum of the spans is 2⁶⁴ seconds exactly, out of a carry of exactly one second. Nobody
  expects this fault: it ends the program. -/
  | carryOverflow
  deriving DecidableEq, Repr

namespace Fault

def message : Fault → String
  | empty => "value was empty"
  | numberExpected offset => s!"expected number at {offset}"
  | invalidCharacter offset => s!"invalid character at {offset}"
  | numberTooLarge =>
    "number is too large or cannot be represented without a lack of precision " ++
      "(values below 1ns are not supported)"
  | unitMissing number => s!"time unit needed, for example {number}sec or {number}ms"
  | unknownUnit name =>
    s!"unknown time unit \"{name}\", supported units: ns, us/µs, ms, sec, min, hours, days, " ++
      "weeks, months, years (and few variations)"
  | carryOverflow => "overflow in Duration::new"

end Fault

/-- What is left to read, with the byte offset of its first character in the whole text. -/
structure Position where
  offset : Nat
  rest : List Char

def isUnitLetter (c : Char) : Bool :=
  ('a' ≤ c && c ≤ 'z') || ('A' ≤ c && c ≤ 'Z') || c == 'µ'

def fit (n : Nat) : Except Fault Nat :=
  if n < UInt64.size then .ok n else .error .numberTooLarge

def appendDigit (n : Nat) (c : Char) : Except Fault Nat :=
  fit (10 * n + (c.toNat - '0'.toNat))

structure Fraction where
  numerator : Nat
  denominator : Nat
  deriving DecidableEq, Repr

/-! ## Adding up -/

/-- Adds whole seconds and nanoseconds to a total. Nanoseconds are carried into seconds when there
are more than 10⁹ of them; exactly 10⁹ are carried last, by the total's own carry. -/
def add (total : Duration) (secs nanos : Nat) : Except Fault Duration := do
  let nanos ← fit (total.nanos + nanos)
  let (secs, nanos) ←
    if 1000000000 < nanos then do pure (← fit (secs + nanos / 1000000000), nanos % 1000000000)
    else pure (secs, nanos)
  let secs ← fit (total.secs + secs)
  match Duration.ofNanos? (secs * 1000000000 + nanos) with
  | some sum => .ok sum
  | none => .error .carryOverflow

/-- Adds `count` times what `worth` says over `divisor`; the quotient has to be exact. -/
def addWorth (total : Duration) (count divisor : Nat) : TimeUnit.Worth → Except Fault Duration
  | .nanos perUnit => do
    let product ← fit (count * perUnit)
    if product % divisor = 0 then total.add 0 (product / divisor) else .error .numberTooLarge
  | .secs perUnit => do
    let product ← fit (count * perUnit)
    if product % divisor = 0 then total.add (product / divisor) 0 else .error .numberTooLarge

def addSpan (total : Duration) (whole : Nat) (fraction : Option Fraction) (unit : List Char) :
    Except Fault Duration :=
  match TimeUnit.named? (String.ofList unit) with
  | none =>
    .error (if unit = [] then .unitMissing whole else .unknownUnit (String.ofList unit))
  | some u => do
    let total ← total.addWorth whole 1 u.wholeWorth
    match fraction with
    | none => .ok total
    | some f =>
      match u.fractionWorth? with
      | none => .error .numberTooLarge
      | some worth => total.addWorth f.numerator f.denominator worth

/-! ## The parts of a span -/

/-- Skips blanks up to a digit and gives the number it starts. `none` at the end of the text. The
fault names the place `start` where the search began. -/
def firstDigit (start offset : Nat) : List Char → Except Fault (Option (Nat × Position))
  | [] => .ok none
  | c :: rest =>
    if c.isDigit then
      .ok (some (c.toNat - '0'.toNat, ⟨offset + c.utf8Size, rest⟩))
    else if Text.isBlank c then
      firstDigit start (offset + c.utf8Size) rest
    else
      .error (.numberExpected start)

def finishFraction (f : Fraction) (faultAt : Nat) (p : Position) :
    Except Fault (Fraction × Position) :=
  if f.denominator = 1 then .error (.invalidCharacter faultAt) else .ok (f, p)

/-- The digits of a fraction, up to a unit letter or the end. `faultAt` is the offset that a fault
names: it stays on the point until something has been read. -/
def fractionDigits (f : Fraction) (faultAt offset : Nat) :
    List Char → Except Fault (Fraction × Position)
  | [] => finishFraction f faultAt ⟨offset, []⟩
  | c :: rest =>
    let next := offset + c.utf8Size
    if c.isDigit then do
      let denominator ← fit (10 * f.denominator)
      let numerator ← appendDigit f.numerator c
      fractionDigits ⟨numerator, denominator⟩ next next rest
    else if Text.isBlank c then
      fractionDigits f next next rest
    else if isUnitLetter c then
      finishFraction f faultAt ⟨offset, c :: rest⟩
    else
      .error (.invalidCharacter faultAt)

/-- The rest of a number after its first digits, with its fraction if there is one. It ends before a
unit letter or at the end of the text. -/
def numberTail (whole offset : Nat) :
    List Char → Except Fault (Nat × Option Fraction × Position)
  | [] => .ok (whole, none, ⟨offset, []⟩)
  | c :: rest =>
    let next := offset + c.utf8Size
    if c.isDigit then do
      let whole ← appendDigit whole c
      numberTail whole next rest
    else if Text.isBlank c then
      numberTail whole next rest
    else if isUnitLetter c then
      .ok (whole, none, ⟨offset, c :: rest⟩)
    else if c = '.' then do
      let (f, p) ← fractionDigits ⟨0, 1⟩ offset next rest
      .ok (whole, some f, p)
    else
      .error (.invalidCharacter offset)

/-- The letters of a unit, after those in `letters`, which is in reverse. One blank behind them goes
with them; a digit stays. -/
def unitLetters (letters : List Char) (offset : Nat) :
    List Char → Except Fault (List Char × Position)
  | [] => .ok (letters.reverse, ⟨offset, []⟩)
  | c :: rest =>
    let next := offset + c.utf8Size
    if c.isDigit then
      .ok (letters.reverse, ⟨offset, c :: rest⟩)
    else if Text.isBlank c then
      .ok (letters.reverse, ⟨next, rest⟩)
    else if isUnitLetter c then
      unitLetters (c :: letters) next rest
    else
      .error (.invalidCharacter offset)

/-! ## Spans -/

/-- Adds the spans of a text to a total. `fuel` bounds their number: a span takes at least one
character, so the length of the text is enough. -/
def readSpans : (fuel : Nat) → (total : Duration) → Position → Except Fault Duration
  | 0, total, _ => .ok total
  | fuel + 1, total, p => do
    match ← firstDigit p.offset p.offset p.rest with
    | none => .ok total
    | some (digit, p) =>
      let (whole, fraction, p) ← numberTail digit p.offset p.rest
      let (unit, p) ← unitLetters [] p.offset p.rest
      let total ← total.addSpan whole fraction unit
      readSpans fuel total p

/-- Reads a duration. The text `0` needs no unit; a text without a span is empty. -/
def read (s : List Char) : Except Fault Duration :=
  if s = ['0'] then
    .ok zero
  else if s.all Text.isBlank then
    .error .empty
  else
    readSpans s.length zero ⟨0, s⟩

end ProcessIntegrity.Duration
