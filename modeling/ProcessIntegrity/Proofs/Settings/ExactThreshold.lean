import ProcessIntegrity.Proofs.Duration.Reading
import ProcessIntegrity.Proofs.Duration.Value
import ProcessIntegrity.Proofs.Settings.Reading
/-!
# Thresholds are exact

A text that is taken for a threshold is spans from end to end, once the blanks around it are gone,
and the threshold is the exact sum of their values. The other way round, whole numbers with their
units are a threshold whenever the sum fits 64 bits as a number of nanoseconds and is at least a
microsecond, with blanks wherever they are allowed (`threshold_exact`).
-/

namespace ProcessIntegrity.Settings

open Duration (Span TimeUnit wholeNanos)

/-- Whole numbers in units are read with their sum, whatever blanks are around the text. -/
theorem read_trim_of_whole {raw : String} {spans : List Span} {after : List Char}
    (hne : spans ≠ []) (hwhole : ∀ s ∈ spans, s.fraction = none)
    (hafter : ∀ c ∈ after, Text.isBlank c = true)
    (hraw : raw.toList = spans.flatMap Span.text ++ after)
    (hsum : wholeNanos spans < UInt64.size) :
    ∃ d, Duration.read (Text.trim raw.toList) = .ok d ∧ d.toNanos = wholeNanos spans := by
  obtain ⟨blanks, bare, hne', htext, hblanks, hfits, hamounts, hhead⟩ :=
    Duration.exists_bare_head hne (Duration.fits_of_whole hwhole hsum)
  have hlast : ∀ c ∈ (bare.flatMap Span.text).getLast?, Text.isBlank c = false := fun c hc =>
    Duration.isBlank_of_isUnitLetter (Duration.isUnitLetter_last c hc)
  have htrim : Text.trim raw.toList = bare.flatMap Span.text := by
    rw [hraw, htext]
    exact Text.trim_padded hblanks hafter ⟨hhead, hlast⟩
  have htotals : Duration.Totals 0 (Duration.amountsOf spans) (0 + wholeNanos spans) :=
    Duration.totals_of_whole hwhole (by rwa [Nat.zero_add])
  rw [Nat.zero_add, ← hamounts] at htotals
  have hlimit : wholeNanos spans < Duration.limit := by
    have hsize := Duration.size_eq
    unfold Duration.limit
    omega
  obtain ⟨d, hd⟩ := Duration.exists_toNanos_eq hlimit
  rw [htrim]
  rw [← hd] at htotals
  exact ⟨d, Duration.read_of_spans hne' hfits htotals, hd⟩

theorem toNanos_of_isThreshold {raw : String} {d : Duration} (h : IsThreshold raw d) :
    1000 ≤ d.toNanos := by
  have hmicros := h.2
  rw [Duration.wholeMicros_eq] at hmicros
  omega

theorem exists_spans_of_isThreshold {raw : String} {d : Duration} (h : IsThreshold raw d) :
    ∃ spans : List Span, spans ≠ [] ∧ Text.trim raw.toList = spans.flatMap Span.text ∧
      (d.toNanos : ℚ) = (spans.map Span.nanos).sum := by
  obtain ⟨_, _, _, _, _, hbare⟩ := Text.exists_padded raw.toList
  rcases (Duration.read_ok_iff hbare).1 h.1 with ⟨_, rfl⟩ | ⟨spans, hne, htext, _, htotals⟩
  · exact absurd (toNanos_of_isThreshold h) (by decide)
  · have hsum := Duration.cast_of_totals htotals
    rw [Nat.cast_zero, zero_add] at hsum
    exact ⟨spans, hne, htext, hsum⟩

/-- A text that is taken for a threshold is spans from end to end and means their exact sum, a
microsecond at least. Whole numbers in units mean their sum, if it is below 2⁶⁴ nanoseconds, and are
refused below a microsecond; the refusal shows the text with the blanks around it. -/
theorem threshold_exact (raw : String) :
    (∀ d, readThreshold raw = .ok d →
      ∃ spans : List Span, spans ≠ [] ∧ Text.trim raw.toList = spans.flatMap Span.text ∧
        (d.toNanos : ℚ) = (spans.map Span.nanos).sum ∧ 1000 ≤ d.toNanos) ∧
    (∀ (spans : List Span) (after : List Char), spans ≠ [] → (∀ s ∈ spans, s.fraction = none) →
      (∀ c ∈ after, Text.isBlank c = true) → raw.toList = spans.flatMap Span.text ++ after →
      wholeNanos spans < 2 ^ 64 →
        (1000 ≤ wholeNanos spans → ∃ d, readThreshold raw = .ok d ∧ d.toNanos = wholeNanos spans) ∧
        (wholeNanos spans < 1000 →
          readThreshold raw = .error (.failed (.invalidValue "timing_threshold" raw)))) ∧
    TimeUnit.all.map TimeUnit.inNanos =
      [1, 1000, 1000000, 1000000000, 60 * 1000000000, 3600 * 1000000000, 86400 * 1000000000,
        604800 * 1000000000, 2630016 * 1000000000, 31557600 * 1000000000] := by
  refine ⟨?_, ?_, rfl⟩
  · intro d h
    have hthreshold := readThreshold_eq_ok_iff.1 h
    obtain ⟨spans, hne, htext, hsum⟩ := exists_spans_of_isThreshold hthreshold
    exact ⟨spans, hne, htext, hsum, toNanos_of_isThreshold hthreshold⟩
  · intro spans after hne hwhole hafter hraw hsum
    obtain ⟨d, hread, hd⟩ := read_trim_of_whole hne hwhole hafter hraw hsum
    have hmicros := Duration.wholeMicros_eq d
    constructor
    · intro hlong
      exact ⟨d, readThreshold_eq_ok_iff.2 ⟨hread, by omega⟩, hd⟩
    · intro hshort
      exact readThreshold_eq_error_iff.2 (.tooShort hread (by omega))

/-- Whole numbers with blanks of several kinds: ` 1 h`, two minutes behind a tab, and `700us`. -/
def spelledSpans : List Span :=
  [⟨.ofNat [' '] 1 [' '] (List.all_eq_true.1 rfl) (List.all_eq_true.1 rfl), none, .hour, ['h'],
      by decide⟩,
    ⟨.ofNat ['\t'] 2 [] (List.all_eq_true.1 rfl) (List.all_eq_true.1 rfl), none, .minute,
      ['m', 'i', 'n'], by decide⟩,
    ⟨.ofNat [] 700 [] (List.all_eq_true.1 rfl) (List.all_eq_true.1 rfl), none, .microsecond,
      ['u', 's'], by decide⟩]

/-- A nanosecond too little. -/
def shortSpan : Span :=
  ⟨.ofNat [] 999 [' '] (List.all_eq_true.1 rfl) (List.all_eq_true.1 rfl), none, .nanosecond,
    ['n', 's'], by decide⟩

theorem threshold_exact_spelled :
    (∃ d, readThreshold " 1 h\t2min700us \n" = .ok d ∧ d.toNanos = 3720000700000) ∧
    readThreshold "999 ns " = .error (.failed (.invalidValue "timing_threshold" "999 ns ")) ∧
    ∃ spans : List Span, spans ≠ [] ∧ "2.5 us".toList = spans.flatMap Span.text ∧
      (2500 : ℚ) = (spans.map Span.nanos).sum := by
  have hlong : wholeNanos spelledSpans = 3720000700000 := by
    simp [wholeNanos, spelledSpans, Duration.value_ofNat, TimeUnit.inNanos, TimeUnit.wholeWorth]
  have hshort : wholeNanos [shortSpan] = 999 := by
    simp [wholeNanos, shortSpan, Duration.value_ofNat, TimeUnit.inNanos, TimeUnit.wholeWorth]
  obtain ⟨-, hwhole, -⟩ := threshold_exact " 1 h\t2min700us \n"
  obtain ⟨-, hrefused, -⟩ := threshold_exact "999 ns "
  obtain ⟨hspans, -, -⟩ := threshold_exact "2.5 us"
  refine ⟨?_, ?_, ?_⟩
  · obtain ⟨htaken, -⟩ := hwhole spelledSpans [' ', '\n'] (List.cons_ne_nil _ _)
      (by simp [spelledSpans]) (List.all_eq_true.1 rfl) rfl (by rw [hlong]; decide)
    rw [hlong] at htaken
    exact htaken (by decide)
  · obtain ⟨-, hbelow⟩ := hrefused [shortSpan] [' '] (List.cons_ne_nil _ _) (by simp [shortSpan])
      (List.all_eq_true.1 rfl) rfl (by rw [hshort]; decide)
    exact hbelow (by rw [hshort]; decide)
  · have hread : Duration.read "2.5 us".toList = .ok ⟨0, 2500, by decide, by decide⟩ := by
      decide +kernel
    have htaken : IsThreshold "2.5 us" ⟨0, 2500, by decide, by decide⟩ := ⟨hread, by decide⟩
    obtain ⟨spans, hne, htext, hsum, -⟩ := hspans _ (readThreshold_eq_ok_iff.2 htaken)
    exact ⟨spans, hne, htext, hsum⟩

/-! ### The names of the units -/

def unitNames : List (List String × Nat) :=
  [(["nanos", "nsec", "ns"], 1), (["usec", "us", "µs"], 1000), (["millis", "msec", "ms"], 1000000),
    (["seconds", "second", "secs", "sec", "s"], 1000000000),
    (["minutes", "minute", "min", "mins", "m"], 60 * 1000000000),
    (["hours", "hour", "hr", "hrs", "h"], 3600 * 1000000000),
    (["days", "day", "d"], 86400 * 1000000000),
    (["weeks", "week", "wk", "wks", "w"], 604800 * 1000000000),
    (["months", "month", "M"], 2630016 * 1000000000),
    (["years", "year", "yr", "yrs", "y"], 31557600 * 1000000000)]

theorem unitNames_eq : unitNames = TimeUnit.all.map fun u => (u.names, u.inNanos) :=
  rfl

/-- A name stands for what is listed with it, and a name that is not listed for no unit. -/
theorem inNanos_named_iff {name : String} {n : Nat} :
    (TimeUnit.named? name).map TimeUnit.inNanos = some n ↔
      ∃ names, (names, n) ∈ unitNames ∧ name ∈ names := by
  rw [unitNames_eq]
  simp only [Option.map_eq_some_iff, List.mem_map, Prod.mk.injEq]
  constructor
  · intro h
    obtain ⟨u, hu, hn⟩ := h
    have hall : u ∈ TimeUnit.all := by cases u <;> decide
    exact ⟨u.names, ⟨u, hall, rfl, hn⟩, TimeUnit.named?_eq_some_iff.1 hu⟩
  · intro h
    obtain ⟨_, ⟨u, _, rfl, hn⟩, hname⟩ := h
    exact ⟨u, TimeUnit.named?_eq_some_iff.2 hname, hn⟩

end ProcessIntegrity.Settings
