import Mathlib.Algebra.BigOperators.Group.List.Basic
import Mathlib.Algebra.Field.Rat
import Mathlib.Data.Nat.Cast.Basic
import Mathlib.Tactic.Ring
import ProcessIntegrity.Proofs.Duration.Spelling
/-!
# What spans are worth

The exact value of a span is its number, a rational one if the span has a fraction, times its unit.
The reader counts in nanoseconds and seconds, in 64 bits and with divisions. A total that it comes
to is the sum of the exact values (`cast_of_totals`). Whole numbers have a total whenever their sum
fits 64 bits as a number of nanoseconds (`totals_of_whole`).
-/

namespace ProcessIntegrity.Duration

open TimeUnit (Worth)

/-! ## Units -/

def TimeUnit.Worth.inNanos : Worth → Nat
  | .nanos perUnit => perUnit
  | .secs perUnit => perUnit * 1000000000

theorem inNanos_wholeWorth (u : TimeUnit) : u.wholeWorth.inNanos = u.inNanos := by
  unfold TimeUnit.inNanos
  cases u.wholeWorth with
  | nanos perUnit => rfl
  | secs perUnit => rfl

/-- Seconds and minutes count their fractions in something else than their whole numbers, but it is
worth the same. -/
theorem inNanos_of_fractionWorth? {u : TimeUnit} {worth : Worth}
    (h : u.fractionWorth? = some worth) : worth.inNanos = u.inNanos := by
  cases u <;> cases h <;> rfl

theorem inNanos_pos (u : TimeUnit) : 0 < u.inNanos := by
  cases u <;> decide

/-! ## Exact values -/

def fractionValue : Option Numeral → ℚ
  | none => 0
  | some f => f.value / 10 ^ f.digits.length

def Span.nanos (s : Span) : ℚ :=
  (s.whole.value + fractionValue s.fraction) * s.unit.inNanos

theorem Amount.Adds.cast_eq {a : Amount} {total next : Nat} (h : a.Adds total next) :
    ∃ worth, a.worth = some worth ∧
      (next : ℚ) = total + a.count * worth.inNanos / a.divisor := by
  have hdivisor : (a.divisor : ℚ) ≠ 0 := Nat.cast_ne_zero.2 (Nat.pos_iff_ne_zero.1 a.divisor_pos)
  cases h with
  | @nanos perUnit n hexact _ _ =>
      have hproduct : (a.count * perUnit : ℚ) = n * a.divisor := by
        exact_mod_cast hexact.exact
      refine ⟨_, hexact.worth_eq, ?_⟩
      rw [Worth.inNanos, hproduct, mul_div_cancel_right₀ _ hdivisor]
      exact Nat.cast_add total n
  | @secs perUnit n hexact _ =>
      have hproduct : (a.count * perUnit : ℚ) = n * a.divisor := by
        exact_mod_cast hexact.exact
      refine ⟨_, hexact.worth_eq, ?_⟩
      rw [Worth.inNanos, Nat.cast_mul, ← mul_assoc, hproduct, mul_right_comm,
        mul_div_cancel_right₀ _ hdivisor]
      push_cast
      ring

theorem totals_nil_iff {total sum : Nat} : Totals total [] sum ↔ sum = total := by
  constructor
  · rintro ⟨⟩
    rfl
  · rintro rfl
    exact .nil sum

theorem totals_cons_iff {total sum : Nat} {a : Amount} {later : List Amount} :
    Totals total (a :: later) sum ↔ ∃ next, a.Adds total next ∧ Totals next later sum := by
  constructor
  · intro h
    cases h with
    | cons hadds hlater => exact ⟨_, hadds, hlater⟩
  · rintro ⟨next, hadds, hlater⟩
    exact .cons hadds hlater

theorem totals_append_iff {total sum : Nat} {as bs : List Amount} :
    Totals total (as ++ bs) sum ↔ ∃ next, Totals total as next ∧ Totals next bs sum := by
  induction as generalizing total with
  | nil => simp [totals_nil_iff]
  | cons a as ih =>
      simp only [List.cons_append, totals_cons_iff, ih]
      constructor
      · rintro ⟨middle, ha, next, has, hbs⟩
        exact ⟨next, ⟨middle, ha, has⟩, hbs⟩
      · rintro ⟨next, ⟨middle, ha, has⟩, hbs⟩
        exact ⟨middle, ha, next, has, hbs⟩

/-- What one span adds is its exact value, whole part and fraction. -/
theorem cast_of_totals_amounts {s : Span} {total next : Nat} (h : Totals total s.amounts next) :
    (next : ℚ) = total + s.nanos := by
  obtain ⟨whole, hadds, hfraction⟩ := totals_cons_iff.1 h
  obtain ⟨worth, hworth, hwhole⟩ := hadds.cast_eq
  cases hworth
  simp only [inNanos_wholeWorth, Nat.cast_one, div_one] at hwhole
  unfold Span.nanos
  cases hf : s.fraction with
  | none =>
      rw [hf] at hfraction
      rw [totals_nil_iff.1 hfraction, hwhole, fractionValue]
      ring
  | some f =>
      rw [hf] at hfraction
      obtain ⟨next', hadds', hlast⟩ := totals_cons_iff.1 hfraction
      obtain ⟨worth', hworth', hpart⟩ := hadds'.cast_eq
      simp only [inNanos_of_fractionWorth? hworth', Nat.cast_pow, Nat.cast_ofNat] at hpart
      rw [totals_nil_iff.1 hlast, hpart, hwhole, fractionValue]
      ring

/-- A total that is come to is the sum of the exact values. -/
theorem cast_of_totals {spans : List Span} {total sum : Nat}
    (h : Totals total (amountsOf spans) sum) :
    (sum : ℚ) = total + (spans.map Span.nanos).sum := by
  induction spans generalizing total with
  | nil =>
      rw [totals_nil_iff.1 h]
      simp
  | cons span later ih =>
      rw [amountsOf_cons] at h
      obtain ⟨next, hspan, hlater⟩ := totals_append_iff.1 h
      rw [ih hlater, cast_of_totals_amounts hspan, List.map_cons, List.sum_cons, add_assoc]

/-! ## Whole numbers -/

def Numeral.ofNat (before : List Char) (n : Nat) (after : List Char)
    (hbefore : ∀ c ∈ before, Text.isBlank c = true) (hafter : ∀ c ∈ after, Text.isBlank c = true) :
    Numeral where
  text := before ++ (Nat.toDigits 10 n ++ after)
  numeric := by
    intro c hc
    rcases List.mem_append.1 hc with hc | hc
    · exact .inr (hbefore c hc)
    · rcases List.mem_append.1 hc with hc | hc
      · exact .inl (Nat.isDigit_of_mem_toDigits (by decide) (by decide) hc)
      · exact .inr (hafter c hc)
  has_digit := by
    obtain ⟨c, rest, hdigits⟩ := List.exists_cons_of_ne_nil (Nat.toDigits_ne_nil (n := n) (b := 10))
    have hc : c ∈ Nat.toDigits 10 n := by
      rw [hdigits]
      exact List.mem_cons_self
    exact ⟨c, by simp [hc], Nat.isDigit_of_mem_toDigits (by decide) (by decide) hc⟩

theorem digits_toDigits (n : Nat) : digits (Nat.toDigits 10 n) = Nat.toDigits 10 n :=
  List.filter_eq_self.2 fun _ hc => Nat.isDigit_of_mem_toDigits (by decide) (by decide) hc

theorem digits_blank {s : List Char} (h : ∀ c ∈ s, Text.isBlank c = true) : digits s = [] := by
  rw [← List.append_nil s, digits_append_blank h]
  rfl

theorem value_ofNat {before after : List Char} {n : Nat}
    {hbefore : ∀ c ∈ before, Text.isBlank c = true} {hafter : ∀ c ∈ after, Text.isBlank c = true} :
    (Numeral.ofNat before n after hbefore hafter).value = n := by
  have hdigits : digits (before ++ (Nat.toDigits 10 n ++ after)) = Nat.toDigits 10 n := by
    calc digits (before ++ (Nat.toDigits 10 n ++ after))
        = digits (Nat.toDigits 10 n ++ after) := digits_append_blank hbefore _
      _ = digits (Nat.toDigits 10 n) ++ digits after := List.filter_append _ _
      _ = Nat.toDigits 10 n := by rw [digits_toDigits, digits_blank hafter, List.append_nil]
  exact (congrArg Text.digitsValue hdigits).trans Nat.ofDigitChars_ten_toDigits

def wholeNanos (spans : List Span) : Nat :=
  (spans.map fun s => s.whole.value * s.unit.inNanos).sum

theorem wholeNanos_cons (s : Span) (later : List Span) :
    wholeNanos (s :: later) = s.whole.value * s.unit.inNanos + wholeNanos later := by
  rw [wholeNanos, List.map_cons, List.sum_cons]
  rfl

theorem adds_whole (total value : Nat) (u : TimeUnit)
    (h : total + value * u.inNanos < UInt64.size) :
    (⟨value, 1, some u.wholeWorth, by decide⟩ : Amount).Adds total (total + value * u.inNanos) := by
  have hsize := size_eq
  rw [← inNanos_wholeWorth] at h ⊢
  cases hworth : u.wholeWorth with
  | nanos perUnit =>
      rw [hworth] at h
      simp only [Worth.inNanos] at h ⊢
      have hfits : value * perUnit < UInt64.size := by omega
      have hwithin : total + value * perUnit < limit := by
        unfold limit
        omega
      exact .nanos ⟨rfl, hfits, (Nat.mul_one _).symm⟩ (by omega) hwithin
  | secs perUnit =>
      rw [hworth] at h
      simp only [Worth.inNanos, ← Nat.mul_assoc] at h ⊢
      have hfits : value * perUnit < UInt64.size := by omega
      have hwithin : total + value * perUnit * 1000000000 < limit := by
        unfold limit
        omega
      exact .secs ⟨rfl, hfits, (Nat.mul_one _).symm⟩ hwithin

/-- Whole numbers have a total whenever their sum fits 64 bits: then every step on the way does. -/
theorem totals_of_whole {spans : List Span} (hwhole : ∀ s ∈ spans, s.fraction = none) {total : Nat}
    (h : total + wholeNanos spans < UInt64.size) :
    Totals total (amountsOf spans) (total + wholeNanos spans) := by
  induction spans generalizing total with
  | nil => exact .nil total
  | cons s later ih =>
      obtain ⟨hnone, hlater⟩ := List.forall_mem_cons.1 hwhole
      rw [wholeNanos_cons, ← Nat.add_assoc] at h ⊢
      have hfits : total + s.whole.value * s.unit.inNanos < UInt64.size :=
        Nat.lt_of_le_of_lt (Nat.le_add_right _ _) h
      have hfirst := adds_whole total s.whole.value s.unit hfits
      have hamounts : s.amounts = [⟨s.whole.value, 1, some s.unit.wholeWorth, by decide⟩] := by
        rw [Span.amounts, hnone]
        rfl
      rw [amountsOf_cons, hamounts]
      exact .cons hfirst (ih hlater h)

theorem fits_of_whole {spans : List Span} (hwhole : ∀ s ∈ spans, s.fraction = none)
    (h : wholeNanos spans < UInt64.size) : ∀ s ∈ spans, s.Fits := by
  induction spans with
  | nil => simp
  | cons s later ih =>
      obtain ⟨hnone, hlater⟩ := List.forall_mem_cons.1 hwhole
      rw [wholeNanos_cons] at h
      have hle : s.whole.value ≤ s.whole.value * s.unit.inNanos :=
        Nat.le_mul_of_pos_right _ (inNanos_pos s.unit)
      refine List.forall_mem_cons.2 ⟨⟨by omega, ?_⟩, ih hlater (by omega)⟩
      rw [hnone]
      simp

end ProcessIntegrity.Duration
