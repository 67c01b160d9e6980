import ProcessIntegrity.Proofs.Settings.ExactThreshold
import ProcessIntegrity.Proofs.Text.Unsigned
/-!
# Two ways to give a threshold in microseconds

A build gives its threshold as a bare number of microseconds, a file or a variable as a duration.
The bare number may be any of 64 bits but zero. The same digits with `us` behind them are the same
threshold as long as the nanoseconds fit 64 bits too, and are refused above that; zero is refused
both ways (`build_threshold_agrees`).
-/

namespace ProcessIntegrity

namespace Duration

/-! ## Microseconds -/

theorem toNanos_ofMicros {n : Nat} (h : n < UInt64.size) : (ofMicros n h).toNanos = 1000 * n := by
  simp only [ofMicros, toNanos]
  omega

/-- Whole microseconds and nothing less. -/
theorem toNanos_eq_micros_iff {d : Duration} {n : Nat} :
    d.toNanos = 1000 * n ↔ d.wholeMicros = n ∧ d.nanos % 1000 = 0 := by
  have hmicros := d.wholeMicros_eq
  have hnanos := d.toNanos_mod
  omega

/-- Digits with the unit behind them are a span. -/
theorem exists_span_micros {s : List Char} {n : Nat} (h : Text.IsDecimal s n) :
    ∃ span : Span, span.text = s ++ ['u', 's'] ∧ span.whole.value = n ∧ span.fraction = none ∧
      span.unit = .microsecond := by
  obtain ⟨c, hc⟩ := List.exists_mem_of_ne_nil s h.ne_nil
  let whole : Numeral := ⟨s, fun d hd => .inl (h.digits d hd), c, hc, h.digits c hc⟩
  have hdigits : whole.digits = s := List.filter_eq_self.2 h.digits
  have hvalue : whole.value = n := by rw [Numeral.value, hdigits, h.value]
  exact ⟨⟨whole, none, .microsecond, ['u', 's'], by decide⟩, rfl, hvalue, rfl, rfl⟩

/-- More microseconds than there are nanoseconds in 64 bits. -/
theorem read_micros_of_ge {s : List Char} {n : Nat} (h : Text.IsDecimal s n) (hn : n < UInt64.size)
    (hlarge : UInt64.size ≤ 1000 * n) : read (s ++ ['u', 's']) = .error .numberTooLarge := by
  obtain ⟨span, htext, hvalue, hfraction, hunit⟩ := exists_span_micros h
  have hspans : [span].flatMap Span.text = s ++ ['u', 's'] := by
    rw [List.flatMap_singleton, htext]
  have hfits : span.Fits := ⟨by rwa [hvalue], by simp [hfraction]⟩
  have hamounts : amountsOf [span] = [⟨n, 1, some (.nanos 1000), by decide⟩] := by
    simp [amountsOf, Span.amounts, hvalue, hfraction, hunit, TimeUnit.wholeWorth]
  rw [← hspans]
  apply read_of_spans_error (List.cons_ne_nil _ _) (by simpa using hfits)
  rw [hamounts, addAmounts_cons, addAmount_of_not_exact, error_bind]
  intro worth m hexact
  have hfew := hexact.fits
  cases hexact.worth_eq
  simp only [TimeUnit.Worth.perUnit] at hfew
  omega

end Duration

namespace Settings

/-! ## The bare number -/

theorem thresholdOfMicros?_eq_some_iff {raw : List Char} {d : Duration} :
    thresholdOfMicros? raw = some d ↔
      ∃ n, Text.IsUnsigned (Text.trim raw) n ∧ 1 ≤ n ∧ n < 2 ^ 64 ∧ d.toNanos = 1000 * n := by
  have hread (n : Nat) : Text.readUnsigned? UInt64.size (Text.trim raw) = some n ↔
      Text.IsUnsigned (Text.trim raw) n ∧ n < 2 ^ 64 := Text.readUnsigned?_eq_some_iff
  constructor
  · intro h
    unfold thresholdOfMicros? at h
    split at h
    · cases h
    · cases h
    · next n hn =>
        cases h
        obtain ⟨hunsigned, hsize⟩ := (hread _).1 hn
        exact ⟨n + 1, hunsigned, Nat.le_add_left 1 n, hsize, Duration.toNanos_ofMicros _⟩
  · rintro ⟨n, hunsigned, hpos, hsize, hd⟩
    have hn := (hread n).2 ⟨hunsigned, hsize⟩
    unfold thresholdOfMicros?
    split
    · next hnone =>
        rw [hn] at hnone
        cases hnone
    · next hzero =>
        rw [hn] at hzero
        cases hzero
        exact absurd hpos (by decide)
    · next m hm =>
        rw [hn] at hm
        cases hm
        rw [Option.some.injEq]
        exact Duration.toNanos_injective ((Duration.toNanos_ofMicros _).trans hd.symm)

theorem exists_thresholdOfMicros {s : List Char} {n : Nat} (h : Text.IsDecimal s n) (hpos : 1 ≤ n)
    (hn : n < 2 ^ 64) : ∃ d, thresholdOfMicros? s = some d ∧ d.toNanos = 1000 * n := by
  have hd : (Duration.ofMicros n hn).toNanos = 1000 * n := Duration.toNanos_ofMicros hn
  refine ⟨.ofMicros n hn, thresholdOfMicros?_eq_some_iff.2 ⟨n, ?_, hpos, hn, hd⟩, hd⟩
  rw [h.bare.trim_eq]
  exact .bare h

theorem thresholdOfMicros_of_zero {s : List Char} (h : Text.IsDecimal s 0) :
    thresholdOfMicros? s = none := by
  refine Option.eq_none_iff_forall_ne_some.2 fun d hd => ?_
  obtain ⟨n, hunsigned, hpos, hn, -⟩ := thresholdOfMicros?_eq_some_iff.1 hd
  rw [h.bare.trim_eq] at hunsigned
  have hzero := Text.readUnsigned?_eq_some_iff.2 ⟨.bare h, Nat.zero_lt_of_lt hn⟩
  rw [Text.readUnsigned?_eq_some_iff.2 ⟨hunsigned, hn⟩] at hzero
  cases hzero
  exact absurd hpos (by decide)

/-! ## The number with its unit -/

theorem toList_micros (s : String) : (s ++ "us").toList = s.toList ++ ['u', 's'] :=
  String.toList_append

theorem trim_micros {s : String} {n : Nat} (h : Text.IsDecimal s.toList n) :
    Text.trim (s ++ "us").toList = (s ++ "us").toList := by
  have hunit : ∀ c ∈ ['u', 's'], Text.isBlank c = false := by simp [Text.isBlank]
  apply Text.Bare.trim_eq
  apply Text.bare_of_forall
  rw [toList_micros]
  exact List.forall_mem_append.2
    ⟨fun c hc => Text.isBlank_of_isDigit (h.digits c hc), hunit⟩

/-- Microseconds that fit 64 bits as nanoseconds are read as that many. -/
theorem exists_read_micros {s : String} {n : Nat} (h : Text.IsDecimal s.toList n)
    (hsmall : 1000 * n < 2 ^ 64) :
    ∃ d, Duration.read (Text.trim (s ++ "us").toList) = .ok d ∧ d.toNanos = 1000 * n := by
  obtain ⟨span, htext, hvalue, hfraction, hunit⟩ := Duration.exists_span_micros h
  have hsum : Duration.wholeNanos [span] = 1000 * n := by
    rw [Duration.wholeNanos, List.map_singleton, List.sum_singleton, hvalue, hunit, Nat.mul_comm]
    rfl
  have hraw : (s ++ "us").toList = [span].flatMap Duration.Span.text ++ [] := by
    rw [List.append_nil, List.flatMap_singleton, htext, toList_micros]
  obtain ⟨d, hread, hd⟩ := read_trim_of_whole (List.cons_ne_nil _ _) (by simpa using hfraction)
    (by simp) hraw (by rw [hsum]; exact hsmall)
  exact ⟨d, hread, hd.trans hsum⟩

theorem readThreshold_micros_of_lt {s : String} {n : Nat} {d : Duration}
    (h : Text.IsDecimal s.toList n) (hpos : 1 ≤ n) (hsmall : 1000 * n < 2 ^ 64)
    (hd : d.toNanos = 1000 * n) : readThreshold (s ++ "us") = .ok d := by
  obtain ⟨e, hread, he⟩ := exists_read_micros h hsmall
  cases Duration.toNanos_injective (he.trans hd.symm)
  have hmicros := d.wholeMicros_eq
  exact readThreshold_eq_ok_iff.2 ⟨hread, by omega⟩

theorem readThreshold_micros_of_ge {s : String} {n : Nat} (h : Text.IsDecimal s.toList n)
    (hn : n < 2 ^ 64) (hlarge : 2 ^ 64 ≤ 1000 * n) :
    readThreshold (s ++ "us") =
      .error (.failed (.invalidDuration (s ++ "us") .numberTooLarge)) := by
  have hread : Duration.read (Text.trim (s ++ "us").toList) = .error .numberTooLarge := by
    rw [trim_micros h, toList_micros]
    exact Duration.read_micros_of_ge h hn hlarge
  rw [readThreshold_of_fault hread (by decide), trim_micros h, String.ofList_toList]

theorem readThreshold_micros_of_zero {s : String} (h : Text.IsDecimal s.toList 0) :
    readThreshold (s ++ "us") =
      .error (.failed (.invalidValue "timing_threshold" (s ++ "us"))) := by
  obtain ⟨d, hread, hd⟩ := exists_read_micros h (by decide)
  have hmicros := d.wholeMicros_eq
  exact readThreshold_eq_error_iff.2 (.tooShort hread (by omega))

theorem isDecimal_zeros (k : Nat) : Text.IsDecimal (List.replicate (k + 1) '0') 0 where
  ne_nil := List.cons_ne_nil _ _
  digits c hc := by
    rw [List.eq_of_mem_replicate hc]
    decide
  value := by rw [Text.digitsValue, Nat.ofDigitChars_replicate_zero, Nat.mul_zero]

/-- A build takes exactly the unsigned numbers of 64 bits but zero, with blanks around them, and
each is a threshold of just so many microseconds; the decimal form of a number gives the number
back. Digits that a build takes are the same threshold with `us` behind them if a thousand times the
number fits 64 bits, and no duration otherwise. Zero is refused both ways, however it is written. -/
theorem build_threshold_agrees :
    (∀ (raw : String) (d : Duration), thresholdOfMicros? raw.toList = some d ↔
      ∃ n, Text.IsUnsigned (Text.trim raw.toList) n ∧ 1 ≤ n ∧ n < 2 ^ 64 ∧
        d.wholeMicros = n ∧ d.nanos % 1000 = 0) ∧
    (∀ n, 1 ≤ n → n < 2 ^ 64 →
      (thresholdOfMicros? (toString n).toList).map Duration.wholeMicros = some n) ∧
    (∀ (s : String) (n : Nat), Text.IsDecimal s.toList n → 1 ≤ n → n < 2 ^ 64 →
      ∃ d, thresholdOfMicros? s.toList = some d ∧
        (1000 * n < 2 ^ 64 → readThreshold (s ++ "us") = .ok d) ∧
        (2 ^ 64 ≤ 1000 * n → readThreshold (s ++ "us") =
          .error (.failed (.invalidDuration (s ++ "us") .numberTooLarge)))) ∧
    ∀ k, let zeros := String.ofList (List.replicate (k + 1) '0')
      thresholdOfMicros? zeros.toList = none ∧ readThreshold (zeros ++ "us") =
        .error (.failed (.invalidValue "timing_threshold" (zeros ++ "us"))) := by
  refine ⟨?_, ?_, ?_, ?_⟩
  · intro raw d
    simp only [thresholdOfMicros?_eq_some_iff, Duration.toNanos_eq_micros_iff]
  · intro n hpos hn
    have hdigits : (toString n).toList = Nat.toDigits 10 n := Nat.toList_repr
    have hdecimal : Text.IsDecimal (toString n).toList n := by
      rw [hdigits]
      exact Text.isDecimal_toDigits n
    obtain ⟨d, hd, hnanos⟩ := exists_thresholdOfMicros hdecimal hpos hn
    rw [hd, Option.map_some, (Duration.toNanos_eq_micros_iff.1 hnanos).1]
  · intro s n h hpos hn
    obtain ⟨d, hd, hnanos⟩ := exists_thresholdOfMicros h hpos hn
    exact ⟨d, hd, fun hsmall => readThreshold_micros_of_lt h hpos hsmall hnanos,
      readThreshold_micros_of_ge h hn⟩
  · intro k zeros
    have hzeros : Text.IsDecimal zeros.toList 0 := by
      rw [String.toList_ofList]
      exact isDecimal_zeros k
    exact ⟨thresholdOfMicros_of_zero hzeros, readThreshold_micros_of_zero hzeros⟩

/-- The last number of microseconds that both ways take, and the first that only a build does. -/
theorem build_threshold_agrees_bounds :
    (∃ d, thresholdOfMicros? "018446744073709551".toList = some d ∧
      readThreshold "018446744073709551us" = .ok d) ∧
    (∃ d, thresholdOfMicros? "18446744073709552".toList = some d ∧
      readThreshold "18446744073709552us" =
        .error (.failed (.invalidDuration "18446744073709552us" .numberTooLarge))) ∧
    (thresholdOfMicros? (toString 18446744073709551615).toList).map Duration.wholeMicros =
      some 18446744073709551615 := by
  obtain ⟨-, hback, hdigits, -⟩ := build_threshold_agrees
  refine ⟨?_, ?_, hback 18446744073709551615 (by decide) (by decide)⟩
  · obtain ⟨d, hd, hsmall, -⟩ := hdigits "018446744073709551" 18446744073709551
      ⟨List.cons_ne_nil _ _, List.all_eq_true.1 rfl, rfl⟩ (by decide) (by decide)
    exact ⟨d, hd, hsmall (by decide)⟩
  · obtain ⟨d, hd, -, hlarge⟩ := hdigits "18446744073709552" 18446744073709552
      ⟨List.cons_ne_nil _ _, List.all_eq_true.1 rfl, rfl⟩ (by decide) (by decide)
    exact ⟨d, hd, hlarge (by decide)⟩

end Settings

end ProcessIntegrity
