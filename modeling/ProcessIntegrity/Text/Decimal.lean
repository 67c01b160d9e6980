/-!
# Decimal numbers

Reading a natural number below a bound from decimal digits. The written form of a number is
`toString`; a reader also takes leading zeros and one plus sign.
-/

namespace ProcessIntegrity.Text

/-- The number that a text of digits stands for, most significant digit first. -/
def digitsValue (digits : List Char) : Nat :=
  Nat.ofDigitChars 10 digits 0

/-- One or more digits and nothing else, of a value below `bound`. -/
def readDigits? (bound : Nat) (digits : List Char) : Option Nat :=
  if digits ≠ [] ∧ digits.all Char.isDigit ∧ digitsValue digits < bound then
    some (digitsValue digits)
  else
    none

/-- As `readDigits?`, with an optional plus sign in front. -/
def readUnsigned? (bound : Nat) : List Char → Option Nat
  | '+' :: digits => readDigits? bound digits
  | digits => readDigits? bound digits

theorem readDigits?_toDigits {bound n : Nat} (h : n < bound) :
    readDigits? bound (Nat.toDigits 10 n) = some n := by
  have value : digitsValue (Nat.toDigits 10 n) = n := Nat.ofDigitChars_ten_toDigits
  have digits : (Nat.toDigits 10 n).all Char.isDigit = true :=
    List.all_eq_true.2 fun _ hc => Nat.isDigit_of_mem_toDigits (by decide) (by decide) hc
  simp [readDigits?, value, digits, h, Nat.toDigits_ne_nil]

theorem readDigits?_lt {bound n : Nat} {digits : List Char}
    (h : readDigits? bound digits = some n) : n < bound := by
  unfold readDigits? at h
  split at h
  · next ok => exact Option.some.inj h ▸ ok.2.2
  · contradiction

theorem readUnsigned?_lt {bound n : Nat} {text : List Char}
    (h : readUnsigned? bound text = some n) : n < bound := by
  unfold readUnsigned? at h
  split at h <;> exact readDigits?_lt h

end ProcessIntegrity.Text
