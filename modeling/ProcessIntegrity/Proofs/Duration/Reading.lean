import ProcessIntegrity.Proofs.Duration.Spelling
import ProcessIntegrity.Proofs.Text.Trim
/-!
# Reading whole texts

A text without blanks around it is read as a duration exactly if spans spell it from end to end, or
if it is the bare zero (`read_ok_iff`). Blanks around a text do not matter to its spans: those in
front belong to the first numeral, and behind the last span there is the last letter of its unit.
-/

namespace ProcessIntegrity.Duration

/-! ## Spans without blanks around them -/

theorem Numeral.exists_bare (n : Numeral) :
    ∃ (blanks : List Char) (m : Numeral), n.text = blanks ++ m.text ∧
      (∀ b ∈ blanks, Text.isBlank b = true) ∧ m.digits = n.digits ∧
      ∃ c rest, m.text = c :: rest ∧ c.isDigit = true := by
  obtain ⟨blanks, c, rest, htext, hblanks, hc, hrest⟩ := n.exists_first_digit
  have hnumeric : ∀ d ∈ c :: rest, IsNumeric d := List.forall_mem_cons.2 ⟨.inl hc, hrest⟩
  refine ⟨blanks, ⟨c :: rest, hnumeric, c, List.mem_cons_self, hc⟩, htext, hblanks, ?_, c, rest,
    rfl, hc⟩
  unfold Numeral.digits
  rw [htext, digits_append_blank hblanks]

/-- The blanks in front of spans belong to the first numeral, and it is worth the same without. -/
theorem exists_bare_head {spans : List Span} (hne : spans ≠ []) (hfits : ∀ s ∈ spans, s.Fits) :
    ∃ (blanks : List Char) (bare : List Span), bare ≠ [] ∧
      spans.flatMap Span.text = blanks ++ bare.flatMap Span.text ∧
      (∀ b ∈ blanks, Text.isBlank b = true) ∧ (∀ s ∈ bare, s.Fits) ∧
      amountsOf bare = amountsOf spans ∧
      ∀ c ∈ (bare.flatMap Span.text).head?, Text.isBlank c = false := by
  cases spans with
  | nil => exact absurd rfl hne
  | cons s later =>
      obtain ⟨blanks, m, htext, hblanks, hdigits, c, rest, hm, hc⟩ := s.whole.exists_bare
      have hvalue : m.value = s.whole.value := congrArg Text.digitsValue hdigits
      obtain ⟨hs, hlater⟩ := List.forall_mem_cons.1 hfits
      refine ⟨blanks, { s with whole := m } :: later, by simp, ?_, hblanks,
        List.forall_mem_cons.2 ⟨⟨?_, hs.fraction⟩, hlater⟩, ?_, ?_⟩
      · simp only [List.flatMap_cons, Span.text, htext, List.append_assoc]
      · rw [hvalue]
        exact hs.whole
      · simp only [amountsOf_cons, Span.amounts, hvalue]
      · intro d hd
        rw [List.flatMap_cons, Span.text, hm] at hd
        cases hd
        exact Text.isBlank_of_isDigit hc

/-- Behind the last span there is the last letter of its unit. -/
theorem isUnitLetter_last {spans : List Span} :
    ∀ c ∈ (spans.flatMap Span.text).getLast?, isUnitLetter c = true := by
  induction spans with
  | nil => simp
  | cons s later ih =>
      intro c hc
      rw [List.flatMap_cons, List.getLast?_append] at hc
      rcases Option.or_eq_some_iff.1 hc with hlater | ⟨_, hs⟩
      · exact ih c hlater
      · rw [Span.text, ← List.append_assoc, List.getLast?_append] at hs
        rcases Option.or_eq_some_iff.1 hs with hname | ⟨hnone, _⟩
        · exact s.isUnitLetter_of_mem_name c (List.mem_of_getLast? hname)
        · exact absurd (List.getLast?_eq_none_iff.1 hnone) s.name_ne_nil

theorem exists_last {spans : List Span} (hne : spans ≠ []) :
    ∃ c, (spans.flatMap Span.text).getLast? = some c ∧ isUnitLetter c = true := by
  have htext : spans.flatMap Span.text ≠ [] := by
    obtain ⟨s, later, rfl⟩ := List.exists_cons_of_ne_nil hne
    obtain ⟨c, t, hs⟩ := exists_text_eq_cons s
    rw [List.flatMap_cons, hs, List.cons_append]
    exact List.cons_ne_nil _ _
  have hlast := List.getLast?_eq_some_getLast htext
  exact ⟨_, hlast, isUnitLetter_last _ hlast⟩

/-! ## Reading a whole text -/

/-- Spans are no bare zero and no blank text: they end with a letter. -/
theorem read_eq_readSpans {spans : List Span} (hne : spans ≠ []) :
    read (spans.flatMap Span.text) =
      readSpans (spans.flatMap Span.text).length zero ⟨0, spans.flatMap Span.text⟩ := by
  obtain ⟨c, hlast, hletter⟩ := exists_last hne
  have hzero : spans.flatMap Span.text ≠ ['0'] := by
    intro h
    rw [h] at hlast
    cases hlast
    exact absurd hletter (by decide)
  have hblank : ¬ (spans.flatMap Span.text).all Text.isBlank = true := by
    intro h
    have hc := List.all_eq_true.1 h c (List.mem_of_getLast? hlast)
    rw [isBlank_of_isUnitLetter hletter] at hc
    cases hc
  rw [read, if_neg hzero, if_neg hblank]

theorem read_of_spans {spans : List Span} {d : Duration} (hne : spans ≠ [])
    (hfits : ∀ s ∈ spans, s.Fits) (htotals : Totals 0 (amountsOf spans) d.toNanos) :
    read (spans.flatMap Span.text) = .ok d := by
  have hspells : Spells (spans.flatMap Span.text) spans [] :=
    ⟨(List.append_nil _).symm, hfits, by simp [Ends]⟩
  rw [read_eq_readSpans hne]
  exact (readSpans_ok_iff (Nat.le_refl _)).2 ⟨spans, [], hspells, by simp, htotals⟩

/-- Spans that cannot be added up are refused as a whole text as they are one after another. -/
theorem read_of_spans_error {spans : List Span} {fault : Fault} (hne : spans ≠ [])
    (hfits : ∀ s ∈ spans, s.Fits) (hfault : zero.addAmounts (amountsOf spans) = .error fault) :
    read (spans.flatMap Span.text) = .error fault := by
  have hspells : Spells (spans.flatMap Span.text) spans [] :=
    ⟨(List.append_nil _).symm, hfits, by simp [Ends]⟩
  obtain ⟨_, _, _, _, hread⟩ := readSpans_of_spells hspells (Nat.le_refl _) 0
  rw [read_eq_readSpans hne, hread, hfault, error_bind]

/-- Nothing is left behind the spans of a text that does not end with a blank. -/
theorem Spells.rest_eq_nil {s rest : List Char} {spans : List Span} (h : Spells s spans rest)
    (hs : Text.Bare s) (hrest : ∀ c ∈ rest, Text.isBlank c = true) : rest = [] := by
  by_contra hne
  have hlast : s.getLast? = some (rest.getLast hne) := by
    rw [h.text_eq, List.getLast?_append]
    exact Option.or_eq_some_iff.2 (.inl (List.getLast?_eq_some_getLast hne))
  have hbare := hs.last _ hlast
  rw [hrest _ (List.getLast_mem hne)] at hbare
  cases hbare

theorem read_ok_iff {s : List Char} (hs : Text.Bare s) {d : Duration} :
    read s = .ok d ↔
      (s = ['0'] ∧ d = zero) ∨
        ∃ spans : List Span, spans ≠ [] ∧ s = spans.flatMap Span.text ∧
          (∀ span ∈ spans, span.Fits) ∧ Totals 0 (amountsOf spans) d.toNanos := by
  constructor
  · intro h
    rw [read] at h
    by_cases hzero : s = ['0']
    · rw [if_pos hzero] at h
      exact .inl ⟨hzero, (Except.ok.inj h).symm⟩
    rw [if_neg hzero] at h
    by_cases hblank : s.all Text.isBlank = true
    · rw [if_pos hblank] at h
      cases h
    rw [if_neg hblank] at h
    obtain ⟨spans, rest, hspells, hrest, htotals⟩ := (readSpans_ok_iff (Nat.le_refl _)).1 h
    have htext : s = spans.flatMap Span.text := by
      rw [hspells.text_eq, hspells.rest_eq_nil hs hrest, List.append_nil]
    refine .inr ⟨spans, ?_, htext, hspells.fits, htotals⟩
    rintro rfl
    exact hblank (by rw [htext]; rfl)
  · rintro (⟨rfl, rfl⟩ | ⟨spans, hne, rfl, hfits, htotals⟩)
    · rfl
    · exact read_of_spans hne hfits htotals

end ProcessIntegrity.Duration
