/-!
# Floating-point numbers

The values of the binary64 format, as sign, significand and power of two. `ofDecimal` rounds a
decimal number to the nearest value, a tie to the even significand. `render` writes a value
with the fewest digits that still round to it, always positionally and always with a point.
All arithmetic is exact, on naturals.
-/

namespace ProcessIntegrity

/-- A binary64 value. A finite one is `significand` · 2^`exponent`, with a significand below 2⁵³ and
an exponent from -1074 to 971. -/
inductive Binary64 where
  | nan
  | infinite (negative : Bool)
  | finite (negative : Bool) (significand : Nat) (exponent : Int)
  deriving DecidableEq, Repr

namespace Binary64

/-! ## Rounding -/

def roundHalfEven (num den : Nat) : Nat :=
  let whole := num / den
  let twice := 2 * (num % den)
  if twice < den ∨ (twice = den ∧ whole % 2 = 0) then whole else whole + 1

/-- The quotient `num / den` divided by 2^`e`, as a quotient again. -/
def divPow2 (num den : Nat) (e : Int) : Nat × Nat :=
  (num * Nat.pow 2 (-e).toNat, den * Nat.pow 2 e.toNat)

/-- The value nearest to `num / den`, which is positive. -/
def ofRatio (negative : Bool) (num den : Nat) : Binary64 :=
  let guess : Int := (Nat.log2 num : Int) - Nat.log2 den - 52
  let (a, b) := divPow2 num den guess
  let fitted := if a < b * Nat.pow 2 52 then guess - 1 else guess
  let exponent := max fitted (-1074)
  let (a, b) := divPow2 num den exponent
  let rounded := roundHalfEven a b
  let (significand, exponent) :=
    if rounded = Nat.pow 2 53 then (Nat.pow 2 52, exponent + 1) else (rounded, exponent)
  if 971 < exponent then infinite negative else finite negative significand exponent

/-- The value nearest to `digits` · 10^`exponent`. Far outside the range of the format the answer is
known without the power of ten. -/
def ofDecimal (negative : Bool) (digits : Nat) (exponent : Int) : Binary64 :=
  let magnitude := ((Nat.toDigits 10 digits).length : Int) + exponent
  if digits = 0 ∨ magnitude < -400 then
    finite negative 0 (-1074)
  else if 400 < magnitude then
    infinite negative
  else
    ofRatio negative (digits * Nat.pow 10 exponent.toNat) (Nat.pow 10 (-exponent).toNat)

/-! ## Fewest digits -/

/-- The numbers `a` · 2^`e` and `c` · 10^`g` in a common unit, to be compared. -/
def commonUnit (a : Nat) (e : Int) (c : Nat) (g : Int) : Nat × Nat :=
  (a * Nat.pow 2 e.toNat * Nat.pow 10 (-g).toNat, c * Nat.pow 10 g.toNat * Nat.pow 2 (-e).toNat)

/-- Whether `c` · 10^`g` rounds to `m` · 2^`e`: it lies within half a step of it on both sides, the
ends included when `m` is even. Below a power of two the step is half as wide. -/
def roundsTo (m : Nat) (e : Int) (c : Nat) (g : Int) : Bool :=
  let below := if m = Nat.pow 2 52 ∧ -1074 < e then 1 else 2
  let (low, x) := commonUnit (4 * m - below) (e - 2) c g
  let (high, y) := commonUnit (4 * m + 2) (e - 2) c g
  if m % 2 = 0 then low ≤ x && y ≤ high else low < x && y < high

/-- The least `k` with `m` · 2^`e` < 10^`k`, for positive `m`. -/
def magnitude (m : Nat) (e : Int) : Int :=
  let guess := (Nat.log2 m + e) * 30103 / 100000 + 1
  let (v, power) := commonUnit m e 1 guess
  if v < power then guess else guess + 1

/-- The best decimal `c` · 10^`g` with `count` digits or a few more: of the two neighbours on the
grid of that many digits those that round to the value, and of two the nearer, an exact tie
going up. -/
def shortestFrom (m : Nat) (e : Int) (k : Int) : (tries count : Nat) → Nat × Int
  | 0, count =>
    let g := k - count
    let (v, unit) := commonUnit m e 1 g
    (v / unit, g)
  | tries + 1, count =>
    let g := k - count
    let (v, unit) := commonUnit m e 1 g
    let c := v / unit
    match roundsTo m e c g, roundsTo m e (c + 1) g with
    | true, true => if 2 * v < (2 * c + 1) * unit then (c, g) else (c + 1, g)
    | true, false => (c, g)
    | false, true => (c + 1, g)
    | false, false => shortestFrom m e k tries (count + 1)

/-- The decimal with the fewest digits that rounds to `m` · 2^`e`, for positive `m`. Seventeen
digits are always enough. -/
def shortest (m : Nat) (e : Int) : Nat × Int :=
  shortestFrom m e (magnitude m e) 17 1

/-! ## Written form -/

/-- The number `c` · 10^`g` without an exponent, with at least one digit on each side of the
point. -/
def positional (c : Nat) (g : Int) : List Char :=
  let digits := Nat.toDigits 10 c
  if 0 ≤ g then
    digits ++ List.replicate g.toNat '0' ++ ['.', '0']
  else
    let places := (-g).toNat
    let padded := List.replicate (places + 1 - digits.length) '0' ++ digits
    let whole := padded.length - places
    let kept := ((padded.drop whole).reverse.dropWhile (· == '0')).reverse
    padded.take whole ++ '.' :: (if kept = [] then ['0'] else kept)

/-- The written form of a value: positional, shortest, with the sign of a negative zero. -/
def render : Binary64 → String
  | nan => "NaN"
  | infinite negative => if negative then "-inf" else "inf"
  | finite negative m e =>
    let (c, g) := if m = 0 then (0, 0) else shortest m e
    String.ofList ((if negative then ['-'] else []) ++ positional c g)

end Binary64

end ProcessIntegrity
