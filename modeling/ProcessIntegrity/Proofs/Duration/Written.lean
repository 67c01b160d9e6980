import Mathlib.Algebra.Group.Nat.Defs
import ProcessIntegrity.Proofs.Duration.Sum
import ProcessIntegrity.Proofs.Text.Trim
/-!
# Written spans

A span as a text, without the reader. A numeral is a text of digits and blanks with at least one
digit; a span is a numeral, perhaps a point and another numeral, and a name of its unit. What a span
adds to a total are one or two amounts, and the reader adds nothing else.
-/

namespace ProcessIntegrity.Duration

/-! ## Kinds of characters -/

theorem isDigit_iff {c : Char} : c.isDigit = true ↔ 48 ≤ c.toNat ∧ c.toNat ≤ 57 := by
  simp only [Char.isDigit, Bool.and_eq_true, decide_eq_true_eq, ge_iff_le, UInt32.le_iff_toNat_le]
  exact Iff.rfl

theorem isUnitLetter_iff {c : Char} :
    isUnitLetter c = true ↔
      (97 ≤ c.toNat ∧ c.toNat ≤ 122) ∨ (65 ≤ c.toNat ∧ c.toNat ≤ 90) ∨ c.toNat = 181 := by
  simp only [isUnitLetter, Bool.and_eq_true, Bool.or_eq_true, decide_eq_true_eq, beq_iff_eq,
    Char.le_def, UInt32.le_iff_toNat_le, ← Char.toNat_inj, or_assoc]
  exact Iff.rfl

theorem isDigit_of_isBlank {c : Char} (h : Text.isBlank c = true) : c.isDigit = false := by
  rw [← Bool.not_eq_true]
  intro hdigit
  rw [Text.isBlank_of_isDigit hdigit] at h
  cases h

theorem isDigit_of_isUnitLetter {c : Char} (h : isUnitLetter c = true) : c.isDigit = false := by
  rw [← Bool.not_eq_true, isDigit_iff]
  rw [isUnitLetter_iff] at h
  omega

theorem isBlank_of_isUnitLetter {c : Char} (h : isUnitLetter c = true) :
    Text.isBlank c = false := by
  rw [isUnitLetter_iff] at h
  simp only [Text.isBlank, Bool.or_eq_false_iff, Bool.and_eq_false_iff, decide_eq_false_iff_not,
    beq_eq_false_iff_ne]
  omega

def IsNumeric (c : Char) : Prop :=
  c.isDigit = true ∨ Text.isBlank c = true

/-! ## Numerals -/

def digits (s : List Char) : List Char :=
  s.filter Char.isDigit

theorem digits_cons_digit {c : Char} (h : c.isDigit = true) (s : List Char) :
    digits (c :: s) = c :: digits s :=
  List.filter_cons_of_pos h

theorem digits_cons_blank {c : Char} (h : Text.isBlank c = true) (s : List Char) :
    digits (c :: s) = digits s :=
  List.filter_cons_of_neg (by rw [isDigit_of_isBlank h]; decide)

theorem digits_append_blank {s : List Char} (h : ∀ c ∈ s, Text.isBlank c = true)
    (t : List Char) : digits (s ++ t) = digits t := by
  induction s with
  | nil => rfl
  | cons c s ih =>
      rw [List.cons_append, digits_cons_blank (h c List.mem_cons_self)]
      exact ih fun d hd => h d (List.mem_cons_of_mem _ hd)

/-- A number as it is written: digits, with blanks anywhere among them. -/
structure Numeral where
  text : List Char
  numeric : ∀ c ∈ text, IsNumeric c
  has_digit : ∃ c ∈ text, c.isDigit = true

namespace Numeral

def digits (n : Numeral) : List Char :=
  Duration.digits n.text

def value (n : Numeral) : Nat :=
  Text.digitsValue n.digits

def addBlank (n : Numeral) (c : Char) (h : Text.isBlank c = true) : Numeral where
  text := c :: n.text
  numeric := by
    intro d hd
    rcases List.mem_cons.1 hd with rfl | hd
    · exact .inr h
    · exact n.numeric d hd
  has_digit := by
    obtain ⟨d, hd, hdigit⟩ := n.has_digit
    exact ⟨d, List.mem_cons_of_mem _ hd, hdigit⟩

theorem digits_addBlank (n : Numeral) {c : Char} (h : Text.isBlank c = true) :
    (n.addBlank c h).digits = n.digits :=
  digits_cons_blank h n.text

theorem exists_addBlank {n : Numeral} {c : Char} {s : List Char} (h : Text.isBlank c = true)
    (htext : n.text = c :: s) : ∃ m : Numeral, m.text = s ∧ n = m.addBlank c h := by
  have hnumeric : ∀ d ∈ s, IsNumeric d := fun d hd =>
    n.numeric d (by rw [htext]; exact List.mem_cons_of_mem _ hd)
  have hdigit : ∃ d ∈ s, d.isDigit = true := by
    obtain ⟨d, hd, hdigit⟩ := n.has_digit
    rw [htext] at hd
    rcases List.mem_cons.1 hd with rfl | hd
    · rw [isDigit_of_isBlank h] at hdigit
      cases hdigit
    · exact ⟨d, hd, hdigit⟩
  refine ⟨⟨s, hnumeric, hdigit⟩, rfl, ?_⟩
  cases n
  cases htext
  rfl

theorem exists_first_digit (n : Numeral) :
    ∃ blanks c rest, n.text = blanks ++ c :: rest ∧ (∀ b ∈ blanks, Text.isBlank b = true) ∧
      c.isDigit = true ∧ ∀ d ∈ rest, IsNumeric d := by
  obtain ⟨text, hnumeric, hdigit⟩ := n
  induction text with
  | nil => simp at hdigit
  | cons c text ih =>
      by_cases hc : c.isDigit = true
      · exact ⟨[], c, text, rfl, by simp, hc, fun d hd => hnumeric d (List.mem_cons_of_mem _ hd)⟩
      · have hblank : Text.isBlank c = true := (hnumeric c List.mem_cons_self).resolve_left hc
        have hlater : ∃ d ∈ text, d.isDigit = true := by simpa [hc] using hdigit
        obtain ⟨blanks, d, rest, rfl, hblanks, hd, hrest⟩ :=
          ih (fun d hd => hnumeric d (List.mem_cons_of_mem _ hd)) hlater
        refine ⟨c :: blanks, d, rest, rfl, ?_, hd, hrest⟩
        intro b hb
        rcases List.mem_cons.1 hb with rfl | hb
        · exact hblank
        · exact hblanks b hb

end Numeral

/-! ## Spans -/

theorem TimeUnit.named?_eq_some_iff {name : String} {u : TimeUnit} :
    TimeUnit.named? name = some u ↔ name ∈ u.names := by
  constructor
  · intro h
    have hcontains := List.find?_some h
    simpa using hcontains
  · intro h
    revert name
    cases u <;> decide

theorem TimeUnit.letters_of_mem_names {u : TimeUnit} {name : String} (h : name ∈ u.names) :
    name.toList ≠ [] ∧ ∀ c ∈ name.toList, isUnitLetter c = true := by
  have hall : (u.names.all fun n => !n.toList.isEmpty && n.toList.all isUnitLetter) = true := by
    cases u <;> rfl
  have hname := List.all_eq_true.1 hall name h
  rw [Bool.and_eq_true, Bool.not_eq_true', List.isEmpty_eq_false_iff, List.all_eq_true] at hname
  exact hname

/-- A span as it is written: a number, perhaps with a fraction, and a name of its unit. -/
structure Span where
  whole : Numeral
  fraction : Option Numeral
  unit : TimeUnit
  name : List Char
  name_mem : String.ofList name ∈ unit.names

def fractionText : Option Numeral → List Char
  | none => []
  | some f => '.' :: f.text

def Numeral.toFraction (f : Numeral) : Fraction :=
  ⟨f.value, 10 ^ f.digits.length⟩

namespace Span

def text (s : Span) : List Char :=
  s.whole.text ++ (fractionText s.fraction ++ s.name)

/-- The numbers of the span fit 64 bits, and so does the denominator of its fraction. -/
structure Fits (s : Span) : Prop where
  whole : s.whole.value < UInt64.size
  fraction : ∀ f ∈ s.fraction, 10 ^ f.digits.length < UInt64.size

def amounts (s : Span) : List Amount :=
  ⟨s.whole.value, 1, some s.unit.wholeWorth, by decide⟩ ::
    (s.fraction.map fun f =>
      ⟨f.value, 10 ^ f.digits.length, s.unit.fractionWorth?, Nat.pow_pos (by decide)⟩).toList

theorem name_ne_nil (s : Span) : s.name ≠ [] := by
  have h := (TimeUnit.letters_of_mem_names s.name_mem).1
  rwa [String.toList_ofList] at h

theorem isUnitLetter_of_mem_name (s : Span) : ∀ c ∈ s.name, isUnitLetter c = true := by
  have h := (TimeUnit.letters_of_mem_names s.name_mem).2
  rwa [String.toList_ofList] at h

def addBlank (s : Span) (c : Char) (h : Text.isBlank c = true) : Span :=
  { s with whole := s.whole.addBlank c h }

theorem value_addBlank (s : Span) {c : Char} (h : Text.isBlank c = true) :
    (s.addBlank c h).whole.value = s.whole.value :=
  congrArg Text.digitsValue (s.whole.digits_addBlank h)

theorem amounts_addBlank (s : Span) {c : Char} (h : Text.isBlank c = true) :
    (s.addBlank c h).amounts = s.amounts := by
  unfold amounts
  simp only [value_addBlank]
  rfl

theorem fits_addBlank_iff {s : Span} {c : Char} (h : Text.isBlank c = true) :
    (s.addBlank c h).Fits ↔ s.Fits := by
  constructor
  · intro hfits
    exact ⟨by rw [← value_addBlank s h]; exact hfits.whole, hfits.fraction⟩
  · intro hfits
    exact ⟨by rw [value_addBlank s h]; exact hfits.whole, hfits.fraction⟩

end Span

theorem addSpan_eq_addAmounts (total : Duration) (s : Span) :
    total.addSpan s.whole.value (s.fraction.map Numeral.toFraction) s.name =
      total.addAmounts s.amounts := by
  rw [addSpan, TimeUnit.named?_eq_some_iff.2 s.name_mem, Span.amounts, addAmounts_cons]
  simp only
  refine congrArg (total.addWorth s.whole.value 1 s.unit.wholeWorth >>= ·) (funext fun next => ?_)
  cases s.fraction with
  | none => rfl
  | some f =>
      simp only [Option.map_some, Option.toList_some, addAmounts_cons, addAmounts_nil]
      rw [addAmount]
      cases s.unit.fractionWorth? with
      | none => rfl
      | some worth => exact (bind_pure _).symm

end ProcessIntegrity.Duration
