import Mathlib.Data.List.TakeWhile
import ProcessIntegrity.Proofs.Duration.Reading
import ProcessIntegrity.Proofs.Duration.Value
/-!
# Rendered durations are read back

A duration is rendered as one span. Its fraction has no zeros at the end, but the digits that are
left still stand for the same part of the unit. Reading the span adds two amounts, and both fit 64
bits on the way, so that every duration comes back from its rendering (`read_renderChars`), the
longest and the shortest ones with the others.
-/

namespace ProcessIntegrity.Duration

/-! ## Fractions -/

/-- The digits behind a point stand for `part` of the 10^`width` parts of a unit. -/
inductive StandsFor (width part : Nat) : Option Numeral → Prop
  | nothing : part = 0 → StandsFor width part none
  | digits {f : Numeral} {dropped : Nat} : f.digits.length + dropped = width →
      f.value * 10 ^ dropped = part → StandsFor width part (some f)

def paddedDigits (width part : Nat) : List Char :=
  List.replicate (width - (Nat.toDigits 10 part).length) '0' ++ Nat.toDigits 10 part

theorem isDigit_of_mem_paddedDigits {width part : Nat} {c : Char}
    (h : c ∈ paddedDigits width part) : c.isDigit = true := by
  rcases List.mem_append.1 h with h | h
  · rw [List.eq_of_mem_replicate h]
    decide
  · exact Nat.isDigit_of_mem_toDigits (by decide) (by decide) h

theorem length_paddedDigits {width part : Nat} (hwidth : 0 < width) (hpart : part < 10 ^ width) :
    (paddedDigits width part).length = width := by
  have hlength := (Nat.length_toDigits_le_iff (by decide) hwidth).2 hpart
  rw [paddedDigits, List.length_append, List.length_replicate]
  omega

theorem digitsValue_paddedDigits (width part : Nat) :
    Text.digitsValue (paddedDigits width part) = part := by
  rw [paddedDigits, Text.digitsValue, Nat.ofDigitChars_append, Nat.ofDigitChars_replicate_zero,
    Nat.mul_zero, Nat.ofDigitChars_ten_toDigits]

theorem exists_dropped_zeros (s : List Char) :
    ∃ dropped, s = (s.reverse.dropWhile (· == '0')).reverse ++ List.replicate dropped '0' := by
  have hzeros : ∀ c ∈ (s.reverse.takeWhile (· == '0')).reverse, c = '0' := by
    intro c hc
    have hc := List.mem_takeWhile_imp (List.mem_reverse.1 hc)
    exact eq_of_beq hc
  refine ⟨(s.reverse.takeWhile (· == '0')).reverse.length, ?_⟩
  calc
    s = (s.reverse.takeWhile (· == '0') ++ s.reverse.dropWhile (· == '0')).reverse := by
      rw [List.takeWhile_append_dropWhile, List.reverse_reverse]
    _ = (s.reverse.dropWhile (· == '0')).reverse ++ (s.reverse.takeWhile (· == '0')).reverse :=
      List.reverse_append
    _ = _ := congrArg (_ ++ ·) (List.eq_replicate_of_mem hzeros)

/-- Digits at the front of a number, and zeros behind them. -/
theorem digitsValue_append_zeros (s : List Char) (n : Nat) :
    Text.digitsValue (s ++ List.replicate n '0') = Text.digitsValue s * 10 ^ n := by
  rw [Text.digitsValue, Nat.ofDigitChars_append, Nat.ofDigitChars_replicate_zero, Nat.mul_comm]
  rfl

/-- What a fraction leaves out is zeros. -/
theorem exists_standsFor {width part : Nat} (hpart : part < 10 ^ width) :
    ∃ f, fraction width part = fractionText f ∧ StandsFor width part f := by
  rcases Nat.eq_zero_or_pos width with rfl | hwidth
  · have hzero : part = 0 := Nat.lt_one_iff.1 hpart
    subst hzero
    exact ⟨none, rfl, .nothing rfl⟩
  obtain ⟨dropped, hsplit⟩ := exists_dropped_zeros (paddedDigits width part)
  have hfraction : fraction width part =
      if ((paddedDigits width part).reverse.dropWhile (· == '0')).reverse = [] then []
      else '.' :: ((paddedDigits width part).reverse.dropWhile (· == '0')).reverse := rfl
  generalize ((paddedDigits width part).reverse.dropWhile (· == '0')).reverse = kept
    at hsplit hfraction
  have hlength : kept.length + dropped = width := by
    rw [← length_paddedDigits hwidth hpart, hsplit, List.length_append, List.length_replicate]
  have hvalue : Text.digitsValue kept * 10 ^ dropped = part := by
    rw [← digitsValue_append_zeros, ← hsplit, digitsValue_paddedDigits]
  have hdigits : ∀ c ∈ kept, c.isDigit = true := fun c hc =>
    isDigit_of_mem_paddedDigits (by rw [hsplit]; exact List.mem_append_left _ hc)
  by_cases hkept : kept = []
  · rw [hkept, Text.digitsValue, Nat.ofDigitChars_nil, Nat.zero_mul] at hvalue
    rw [if_pos hkept] at hfraction
    exact ⟨none, hfraction, .nothing hvalue.symm⟩
  · obtain ⟨c, hc⟩ := List.exists_mem_of_ne_nil kept hkept
    obtain ⟨f, rfl⟩ : ∃ f : Numeral, f.text = kept :=
      ⟨⟨kept, fun d hd => .inl (hdigits d hd), c, hc, hdigits c hc⟩, rfl⟩
    have hsame : f.digits = f.text := List.filter_eq_self.2 hdigits
    rw [if_neg hkept] at hfraction
    rw [← hsame] at hlength hvalue
    exact ⟨some f, hfraction, .digits hlength hvalue⟩

/-! ## The span of a duration -/

/-- The fraction of a rendering is worth a whole number of nanoseconds, `part` of them. -/
theorem adds_fraction {f : Numeral} {total width part dropped : Nat} {worth : Option TimeUnit.Worth}
    (hwidth : width ≤ 9) (hlength : f.digits.length + dropped = width)
    (hvalue : f.value * 10 ^ dropped = part) (hpart : part < 10 ^ width)
    (hworth : worth = some (.nanos (10 ^ width))) (hlimit : total + part < limit) :
    (⟨f.value, 10 ^ f.digits.length, worth, Nat.pow_pos (by decide)⟩ : Amount).Adds total
      (total + part) := by
  have hsize := size_eq
  have hpow : 10 ^ width ≤ 10 ^ 9 := Nat.pow_le_pow_right (by decide) hwidth
  have hle : f.value ≤ part := by
    rw [← hvalue]
    exact Nat.le_mul_of_pos_right _ (Nat.pow_pos (by decide))
  have hfits : f.value * 10 ^ width < UInt64.size := by
    have hproduct : f.value * 10 ^ width ≤ 10 ^ 9 * 10 ^ 9 := Nat.mul_le_mul (by omega) hpow
    omega
  have hexact : f.value * 10 ^ width = part * 10 ^ f.digits.length := by
    calc
      f.value * 10 ^ width = f.value * (10 ^ f.digits.length * 10 ^ dropped) := by
        rw [← hlength, Nat.pow_add]
      _ = f.value * 10 ^ dropped * 10 ^ f.digits.length := by ac_rfl
      _ = part * 10 ^ f.digits.length := by rw [hvalue]
  exact .nanos ⟨hworth, hfits, hexact⟩ (by omega) hlimit

theorem exists_span_amount {d : Duration} {whole width part : Nat} {u : TimeUnit} {name : List Char}
    (hname : String.ofList name ∈ u.names) (hwidth : width ≤ 9) (hpart : part < 10 ^ width)
    (hd : d.toNanos = whole * 10 ^ width + part) (hfits : whole < UInt64.size)
    (hwhole : (⟨whole, 1, some u.wholeWorth, by decide⟩ : Amount).Adds 0 (whole * 10 ^ width))
    (hworth : 0 < width → u.fractionWorth? = some (.nanos (10 ^ width))) :
    ∃ s : Span, amount whole width part name = s.text ∧ s.Fits ∧ Totals 0 s.amounts d.toNanos := by
  obtain ⟨f, htext, hf⟩ := exists_standsFor hpart
  have hlimit := toNanos_lt_limit d
  have hnumeral : (Numeral.ofNat [] whole [] (by simp) (by simp)).value = whole := value_ofNat
  refine ⟨⟨.ofNat [] whole [] (by simp) (by simp), f, u, name, hname⟩, ?_, ⟨?_, ?_⟩, ?_⟩
  · simp only [amount, htext, Span.text, Numeral.ofNat, List.nil_append, List.append_nil,
      List.append_assoc]
  · rw [hnumeral]
    exact hfits
  · intro g hg
    cases hf with
    | nothing _ => cases hg
    | @digits f dropped hlength _ =>
        cases hg
        have hpow : 10 ^ g.digits.length ≤ 10 ^ 9 :=
          Nat.pow_le_pow_right (by decide) (by omega)
        have hsize := size_eq
        omega
  · rw [Span.amounts, hnumeral]
    refine .cons hwhole ?_
    cases hf with
    | nothing hzero =>
        rw [hd, hzero]
        exact .nil _
    | @digits f dropped hlength hvalue =>
        have hpos : 0 < width := by
          have hne := List.length_pos_iff.2 f.digits_ne_nil
          omega
        rw [hd]
        exact .cons (adds_fraction hwidth hlength hvalue hpart (hworth hpos) (by omega)) (.nil _)

/-- Less than a second is counted in units of a whole number of nanoseconds. -/
theorem exists_span_short {d : Duration} (hshort : d.secs = 0) {whole width part : Nat}
    {u : TimeUnit} {name : List Char} (hname : String.ofList name ∈ u.names) (hwidth : width ≤ 9)
    (hunit : u.inNanos = 10 ^ width) (hnanos : d.nanos = whole * 10 ^ width + part)
    (hpart : part < 10 ^ width)
    (hworth : 0 < width → u.fractionWorth? = some (.nanos (10 ^ width))) :
    ∃ s : Span, amount whole width part name = s.text ∧ s.Fits ∧ Totals 0 s.amounts d.toNanos := by
  have hbound := d.nanos_lt
  have hsize := size_eq
  have hle : whole ≤ whole * 10 ^ width := Nat.le_mul_of_pos_right _ (Nat.pow_pos (by decide))
  have hwhole := adds_whole 0 whole u (by rw [hunit]; omega)
  rw [Nat.zero_add, hunit] at hwhole
  have hd : d.toNanos = whole * 10 ^ width + part := by
    rw [toNanos, hshort, hnanos, Nat.zero_mul, Nat.zero_add]
  exact exists_span_amount hname hwidth hpart hd (by omega) hwhole hworth

/-- A duration is rendered as one span that adds all of it, whatever its unit. -/
theorem exists_span_renderChars (d : Duration) :
    ∃ s : Span, d.renderChars = s.text ∧ s.Fits ∧ Totals 0 s.amounts d.toNanos := by
  have hsecs := d.secs_lt
  have hnanos := d.nanos_lt
  have hsize := size_eq
  have hlimit := toNanos_lt_limit d
  rw [renderChars]
  by_cases hlong : 0 < d.secs
  · rw [if_pos hlong]
    have hwhole : (⟨d.secs, 1, some TimeUnit.second.wholeWorth, by decide⟩ : Amount).Adds 0
        (0 + d.secs * 1000000000) :=
      .secs ⟨rfl, by simpa [TimeUnit.Worth.perUnit] using hsecs, rfl⟩ (by
        unfold toNanos at hlimit
        omega)
    rw [Nat.zero_add] at hwhole
    exact exists_span_amount (by decide) (by decide) hnanos rfl hsecs hwhole fun _ => rfl
  rw [if_neg hlong]
  have hshort : d.secs = 0 := Nat.eq_zero_of_not_pos hlong
  by_cases hmillis : 1000000 ≤ d.nanos
  · rw [if_pos hmillis]
    exact exists_span_short hshort (u := .millisecond) (by decide) (by decide) rfl (by omega)
      (by omega) fun _ => rfl
  rw [if_neg hmillis]
  by_cases hmicros : 1000 ≤ d.nanos
  · rw [if_pos hmicros]
    exact exists_span_short hshort (u := .microsecond) (by decide) (by decide) rfl (by omega)
      (by omega) fun _ => rfl
  · rw [if_neg hmicros]
    exact exists_span_short hshort (u := .nanosecond) (by decide) (by decide) rfl (by omega)
      (by omega) fun h => absurd h (by decide)

/-! ## The characters of a rendering -/

theorem mem_fraction {width part : Nat} {c : Char} (h : c ∈ fraction width part) :
    c = '.' ∨ c.isDigit = true := by
  simp only [fraction] at h
  split at h
  · cases h
  · rcases List.mem_cons.1 h with h | h
    · exact .inl h
    · have hpadded := (List.dropWhile_suffix _).subset (List.mem_reverse.1 h)
      exact .inr (isDigit_of_mem_paddedDigits (List.mem_reverse.1 hpadded))

theorem mem_amount {whole width part : Nat} {unit : List Char} {c : Char}
    (hunit : unit.all isUnitLetter = true) (h : c ∈ amount whole width part unit) :
    c = '.' ∨ c.isDigit = true ∨ isUnitLetter c = true := by
  rcases List.mem_append.1 h with h | h
  · rcases List.mem_append.1 h with h | h
    · exact .inr (.inl (Nat.isDigit_of_mem_toDigits (by decide) (by decide) h))
    · exact (mem_fraction h).imp_right .inl
  · exact .inr (.inr (List.all_eq_true.1 hunit c h))

/-- A rendering is digits, letters of a unit and perhaps a point. -/
theorem mem_renderChars {d : Duration} {c : Char} (h : c ∈ d.renderChars) :
    c = '.' ∨ c.isDigit = true ∨ isUnitLetter c = true := by
  rw [renderChars] at h
  split at h
  · exact mem_amount (by decide) h
  · split at h
    · exact mem_amount (by decide) h
    · split at h
      · exact mem_amount (by decide) h
      · exact mem_amount (by decide) h

theorem notMem_render {c : Char} (hpoint : c ≠ '.') (hdigit : c.isDigit = false)
    (hletter : isUnitLetter c = false) (d : Duration) : c ∉ d.render.toList := by
  rw [render, String.toList_ofList]
  intro h
  rcases mem_renderChars h with h | h | h
  · exact hpoint h
  · exact Bool.false_ne_true (hdigit.symm.trans h)
  · exact Bool.false_ne_true (hletter.symm.trans h)

theorem trim_renderChars (d : Duration) : Text.trim d.renderChars = d.renderChars := by
  have hbare : Text.Bare d.renderChars := by
    apply Text.bare_of_forall
    intro c hc
    rcases mem_renderChars hc with rfl | hdigit | hletter
    · rfl
    · exact Text.isBlank_of_isDigit hdigit
    · exact isBlank_of_isUnitLetter hletter
  exact hbare.trim_eq

/-! ## Reading it back -/

/-- Every duration is what reading its rendering comes to. -/
theorem read_renderChars (d : Duration) : read d.renderChars = .ok d := by
  obtain ⟨s, htext, hfits, htotals⟩ := exists_span_renderChars d
  have hspans : [s].flatMap Span.text = d.renderChars := by
    rw [List.flatMap_singleton, htext]
  have hamounts : amountsOf [s] = s.amounts := by
    rw [amountsOf, List.flatMap_singleton]
  rw [← hspans]
  apply read_of_spans (List.cons_ne_nil _ _)
  · simpa using hfits
  · rw [hamounts]
    exact htotals

end ProcessIntegrity.Duration
