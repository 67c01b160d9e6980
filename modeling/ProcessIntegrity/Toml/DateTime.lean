import ProcessIntegrity.Toml.Value
/-!
# Dates and times in TOML

A date, a time of day, or both with or without an offset from UTC. Only days that exist are read;
the sixtieth second of a minute is there for leap seconds.
-/

namespace ProcessIntegrity.Toml

def fixedDigits? (value : Nat) : (count : Nat) → Reader Nat
  | 0, s => some (value, s)
  | count + 1, c :: rest =>
    if c.isDigit then fixedDigits? (10 * value + (c.toNat - '0'.toNat)) count rest else none
  | _ + 1, [] => none

def twoDigits? (low high : Nat) : Reader Nat := fun s => do
  let (n, rest) ← fixedDigits? 0 2 s
  guard (low ≤ n ∧ n ≤ high)
  return (n, rest)

def isLeapYear (year : Nat) : Bool :=
  year % 4 == 0 && (year % 100 != 0 || year % 400 == 0)

def daysIn (year month : Nat) : Nat :=
  if month = 2 then (if isLeapYear year then 29 else 28)
  else if month = 4 ∨ month = 6 ∨ month = 9 ∨ month = 11 then 30
  else 31

/-- What is left behind a date. -/
def date? (s : List Char) : Option (List Char) := do
  let (year, s) ← fixedDigits? 0 4 s
  let s ← after? '-' s
  let (month, s) ← twoDigits? 1 12 s
  let s ← after? '-' s
  let (_, s) ← twoDigits? 1 (daysIn year month) s
  return s

def skipSecondFraction : List Char → List Char
  | '.' :: c :: rest => if c.isDigit then rest.dropWhile Char.isDigit else '.' :: c :: rest
  | s => s

def time? (s : List Char) : Option (List Char) := do
  let (_, s) ← twoDigits? 0 23 s
  let s ← after? ':' s
  let (_, s) ← twoDigits? 0 59 s
  let s ← after? ':' s
  let (_, s) ← twoDigits? 0 60 s
  return skipSecondFraction s

def offset? : List Char → Option (List Char)
  | c :: rest =>
    if c = 'Z' ∨ c = 'z' then
      some rest
    else if c = '+' ∨ c = '-' then do
      let (_, s) ← twoDigits? 0 23 rest
      let s ← after? ':' s
      let (_, s) ← twoDigits? 0 59 s
      return s
    else
      none
  | [] => none

def timeAfterDate? : List Char → Option (List Char)
  | c :: rest =>
    if c = 'T' ∨ c = 't' ∨ c = ' ' then
      (time? rest).map fun s => (offset? s).getD s
    else
      none
  | [] => none

def dateTime? : Reader Value := fun s => do
  let rest ← match date? s with
    | some rest => some ((timeAfterDate? rest).getD rest)
    | none => time? s
  return (.dateTime (String.ofList (s.take (s.length - rest.length))), rest)

end ProcessIntegrity.Toml
