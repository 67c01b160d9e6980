import ProcessIntegrity.Toml.Value
import ProcessIntegrity.Text.Decimal
/-!
# Numbers in TOML

Integers in base ten, with a sign, or in base sixteen, eight or two behind `0x`, `0o` or `0b`;
floating-point numbers with a fraction, an exponent or both; infinity and not-a-number. Single
underscores may stand between digits. An integer outside 64 bits is no number, nor is one that
rounds to positive infinity.
-/

namespace ProcessIntegrity.Toml

def digitValue (c : Char) : Nat :=
  if c.isDigit then c.toNat - '0'.toNat
  else if 'a' ≤ c ∧ c ≤ 'f' then c.toNat - 'a'.toNat + 10
  else if 'A' ≤ c ∧ c ≤ 'F' then c.toNat - 'A'.toNat + 10
  else 16

def isDigitOf (base : Nat) (c : Char) : Bool :=
  digitValue c < base

def radixValue (base : Nat) (digits : List Char) : Nat :=
  digits.foldl (fun n c => base * n + digitValue c) 0

/-- Further digits, each with or without an underscore in front. The underscores are dropped. -/
def digitTail (base : Nat) : List Char → List Char × List Char
  | '_' :: c :: rest =>
    if isDigitOf base c then
      let (digits, rest) := digitTail base rest
      (c :: digits, rest)
    else
      ([], '_' :: c :: rest)
  | c :: rest =>
    if isDigitOf base c then
      let (digits, rest) := digitTail base rest
      (c :: digits, rest)
    else
      ([], c :: rest)
  | [] => ([], [])

def digits? (base : Nat) : Reader (List Char)
  | c :: rest =>
    if isDigitOf base c then
      let (digits, rest) := digitTail base rest
      some (c :: digits, rest)
    else
      none
  | [] => none

/-- Whether a minus sign stands in front, and what is left behind the sign, if any. -/
def takeSign : List Char → Bool × List Char
  | '-' :: rest => (true, rest)
  | '+' :: rest => (false, rest)
  | s => (false, s)

/-- Decimal digits without a leading zero. -/
def plainDigits? : Reader (List Char)
  | '0' :: rest => some (['0'], rest)
  | s => digits? 10 s

def signed? (negative : Bool) (magnitude : Nat) : Option Int :=
  if negative then
    if magnitude ≤ UInt64.size / 2 then some (-magnitude) else none
  else
    if magnitude < UInt64.size / 2 then some magnitude else none

def basedInteger? (base : Nat) : Reader Int := fun s => do
  let (digits, rest) ← digits? base s
  let n ← signed? false (radixValue base digits)
  return (n, rest)

def integer? : Reader Int
  | '0' :: 'x' :: rest => basedInteger? 16 rest
  | '0' :: 'o' :: rest => basedInteger? 8 rest
  | '0' :: 'b' :: rest => basedInteger? 2 rest
  | s => do
    let (negative, rest) := takeSign s
    let (digits, rest) ← plainDigits? rest
    let n ← signed? negative (radixValue 10 digits)
    return (n, rest)

def fraction? : Reader (List Char)
  | '.' :: rest => digits? 10 rest
  | _ => none

def exponent? : Reader Int
  | c :: rest =>
    if c = 'e' ∨ c = 'E' then do
      let (negative, rest) := takeSign rest
      let (digits, rest) ← digits? 10 rest
      let magnitude := radixValue 10 digits
      return (if negative then -magnitude else magnitude, rest)
    else
      none
  | [] => none

/-- The written form of a finite number with a fraction, an exponent or both: its sign, its digits
and the power of ten of the last one. -/
def decimal? : Reader (Bool × Nat × Int) := fun s => do
  let (negative, rest) := takeSign s
  let (whole, rest) ← plainDigits? rest
  match fraction? rest with
  | none =>
    let (exponent, rest) ← exponent? rest
    return ((negative, radixValue 10 whole, exponent), rest)
  | some (part, rest) =>
    let (exponent, rest) := (exponent? rest).getD (0, rest)
    return ((negative, radixValue 10 (whole ++ part), exponent - part.length), rest)

def special? : Reader Binary64 := fun s =>
  let (negative, rest) := takeSign s
  match rest with
  | 'i' :: 'n' :: 'f' :: rest => some (.infinite negative, rest)
  | 'n' :: 'a' :: 'n' :: rest => some (.nan, rest)
  | _ => none

def number? : Reader Value := fun s =>
  match decimal? s with
  | some ((negative, digits, exponent), rest) =>
    match Binary64.ofDecimal negative digits exponent with
    | .infinite false => none
    | x => some (.float x, rest)
  | none =>
    match special? s with
    | some (x, rest) => some (.float x, rest)
    | none => (integer? s).map fun (n, rest) => (.integer n, rest)

end ProcessIntegrity.Toml
