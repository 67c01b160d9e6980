import ProcessIntegrity.Proofs.Duration.Parts
/-!
# How durations are spelled

Reading a text goes through its spans one by one. It comes to a duration exactly if the text is
spelled by spans whose amounts add up to the duration (`readSpans_ok_iff`), and it crashes exactly
if the text begins with spans whose amounts tip the total over (`readSpans_crash_iff`).
-/

namespace ProcessIntegrity.Duration

/-! ## One span -/

theorem Span.stops_name (s : Span) (rest : List Char) : Stops (s.name ++ rest) := by
  intro c hc
  cases hname : s.name with
  | nil => exact absurd hname s.name_ne_nil
  | cons d name =>
      have hd : d ∈ s.name := by
        rw [hname]
        exact List.mem_cons_self
      rw [hname] at hc
      cases hc
      exact s.isUnitLetter_of_mem_name _ hd

theorem Numeral.digits_ne_nil (n : Numeral) : n.digits ≠ [] := by
  obtain ⟨c, hc, hdigit⟩ := n.has_digit
  exact List.ne_nil_of_mem (List.mem_filter.2 ⟨hc, hdigit⟩)

theorem numberTail_fraction {fraction : Option Numeral}
    (hfits : ∀ f ∈ fraction, 10 ^ f.digits.length < UInt64.size) {rest : List Char} (h : Stops rest)
    (n offset : Nat) :
    ∃ next, numberTail n offset (fractionText fraction ++ rest) =
      .ok (n, fraction.map Numeral.toFraction, ⟨next, rest⟩) := by
  cases fraction with
  | none => exact ⟨offset, numberTail_stops h n offset⟩
  | some f =>
      have hlength : 1 ≤ f.digits.length := List.length_pos_iff.2 f.digits_ne_nil
      have hden : 1 * 10 ^ f.digits.length ≠ 1 := by
        have hpow := Nat.pow_le_pow_right (n := 10) (by decide) hlength
        omega
      have hlt : 1 * 10 ^ (digits f.text).length < UInt64.size := by
        rw [Nat.one_mul]
        exact hfits f rfl
      obtain ⟨fault, next, hread⟩ := fractionDigits_numeric f.numeric (f := ⟨0, 1⟩)
        (by decide) hlt offset (offset + '.'.utf8Size) rest
      have hfinish : finishFraction ⟨Nat.ofDigitChars 10 (digits f.text) 0,
          1 * 10 ^ (digits f.text).length⟩ fault ⟨next, rest⟩ =
          .ok (f.toFraction, ⟨next, rest⟩) := by
        refine (if_neg hden).trans ?_
        rw [Nat.one_mul]
        rfl
      simp only at hread
      refine ⟨next, ?_⟩
      rw [fractionText, List.cons_append, numberTail_point, hread, fractionDigits_stops h,
        hfinish, ok_bind]
      rfl

theorem Numeral.value_of_text {n : Numeral} {blanks t : List Char} {c : Char}
    (htext : n.text = blanks ++ c :: t) (hblanks : ∀ b ∈ blanks, Text.isBlank b = true)
    (hc : c.isDigit = true) :
    n.value = Nat.ofDigitChars 10 (Duration.digits t) (c.toNat - '0'.toNat) := by
  unfold value Text.digitsValue digits
  rw [htext, digits_append_blank hblanks, digits_cons_digit hc, Nat.ofDigitChars_cons,
    Nat.mul_zero, Nat.zero_add]

/-- Reading goes through a span by adding its amounts. -/
theorem readSpans_span {s : Span} (hfits : s.Fits) {rest : List Char} (hends : Ends rest)
    (fuel offset : Nat) :
    ∃ next, ∀ total : Duration, readSpans (fuel + 1) total ⟨offset, s.text ++ rest⟩ =
      total.addAmounts s.amounts >>= fun sum => readSpans fuel sum ⟨next, afterBlank rest⟩ := by
  obtain ⟨blanks, c, t, htext, hblanks, hc, ht⟩ := s.whole.exists_first_digit
  have hvalue := Numeral.value_of_text htext hblanks hc
  have hwhole := hfits.whole
  rw [hvalue] at hwhole
  have hsplit : s.text ++ rest =
      blanks ++ c :: (t ++ (fractionText s.fraction ++ (s.name ++ rest))) := by
    unfold Span.text
    rw [htext]
    simp only [List.append_assoc, List.cons_append]
  obtain ⟨first, hfirst⟩ := firstDigit_digit hblanks hc
    (t ++ (fractionText s.fraction ++ (s.name ++ rest))) offset offset
  obtain ⟨point, hpoint⟩ := numberTail_numeric ht hwhole first
    (fractionText s.fraction ++ (s.name ++ rest))
  obtain ⟨unit, hunit⟩ := numberTail_fraction hfits.fraction (s.stops_name rest)
    (Nat.ofDigitChars 10 (digits t) (c.toNat - '0'.toNat)) point
  obtain ⟨behind, hletters⟩ := unitLetters_letters s.isUnitLetter_of_mem_name [] unit rest
  obtain ⟨next, hnext⟩ := unitLetters_ends hends (s.name.reverse ++ []) behind
  refine ⟨next, fun total => ?_⟩
  rw [hsplit, readSpans, hfirst, ok_bind]
  simp only
  rw [hpoint, hunit, ok_bind]
  simp only
  rw [hletters, hnext, ok_bind, List.append_nil, List.reverse_reverse, ← hvalue,
    addSpan_eq_addAmounts]

theorem fraction_cases (faultAt offset : Nat) (s : List Char) :
    (∃ (f : Numeral) (rest : List Char), s = f.text ++ rest ∧ 10 ^ f.digits.length < UInt64.size ∧
        Stops rest) ∨
      Refuses (fractionDigits ⟨0, 1⟩ faultAt offset s) := by
  rcases fractionDigits_cases (f := ⟨0, 1⟩) (by decide) (by decide) faultAt offset s with
    ⟨t, rest, rfl, ht, hfits, hstops⟩ | hrefuses
  · by_cases hdigit : ∃ c ∈ t, c.isDigit = true
    · refine .inl ⟨⟨t, ht, hdigit⟩, rest, rfl, ?_, hstops⟩
      rw [← Nat.one_mul (10 ^ _)]
      exact hfits
    · have hnone : digits t = [] :=
        List.filter_eq_nil_iff.2 fun c hc hd => hdigit ⟨c, hc, hd⟩
      obtain ⟨fault, next, hread⟩ := fractionDigits_numeric ht (f := ⟨0, 1⟩) (by decide) hfits
        faultAt offset rest
      refine .inr ?_
      rw [hread, fractionDigits_stops hstops, hnone]
      exact refuses_error (by simp)
  · exact .inr hrefuses

theorem number_cases {n : Nat} (hn : n < UInt64.size) (offset : Nat) (s : List Char) :
    (∃ t fraction rest, s = t ++ (fractionText fraction ++ rest) ∧ (∀ c ∈ t, IsNumeric c) ∧
        Nat.ofDigitChars 10 (digits t) n < UInt64.size ∧
        (∀ f ∈ fraction, 10 ^ f.digits.length < UInt64.size) ∧ Stops rest) ∨
      Refuses (numberTail n offset s) := by
  rcases numberTail_cases hn offset s with ⟨t, rest, rfl, ht, hvalue, hrest⟩ | hrefuses
  case inr => exact .inr hrefuses
  rcases hrest with hstops | hpoint
  · exact .inl ⟨t, none, rest, rfl, ht, hvalue, by simp, hstops⟩
  · obtain ⟨u, rfl⟩ : ∃ u, rest = '.' :: u := List.head?_eq_some_iff.1 hpoint
    obtain ⟨point, hread⟩ := numberTail_numeric ht hvalue offset ('.' :: u)
    rcases fraction_cases point (point + '.'.utf8Size) u with ⟨f, r, rfl, hfits, hstops⟩ | hrefuses
    · refine .inl ⟨t, some f, r, rfl, ht, hvalue, ?_, hstops⟩
      intro g hg
      cases hg
      exact hfits
    · rw [hread, numberTail_point]
      exact .inr (refuses_bind hrefuses _)

/-- A text that is left to read is blank, or begins with a span, or is refused. -/
theorem readSpans_cases (fuel : Nat) (total : Duration) (offset : Nat) (s : List Char) :
    (∀ c ∈ s, Text.isBlank c = true) ∨
      (∃ (span : Span) (rest : List Char), s = span.text ++ rest ∧ span.Fits ∧ Ends rest) ∨
      Refuses (readSpans (fuel + 1) total ⟨offset, s⟩) := by
  rcases firstDigit_cases offset offset s with hblank | ⟨blanks, c, rest, rfl, hblanks, hc⟩ | herror
  · exact .inl hblank
  · have hn : c.toNat - '0'.toNat < UInt64.size := by
      have hbounds := isDigit_iff.1 hc
      have hsize := size_eq
      omega
    obtain ⟨first, hfirst⟩ := firstDigit_digit hblanks hc rest offset offset
    rw [readSpans, hfirst, ok_bind]
    simp only
    rcases number_cases hn first rest with ⟨t, fraction, r, rfl, ht, hvalue, hfits, hstops⟩ | h
    case inr => exact .inr (.inr (refuses_bind h _))
    obtain ⟨point, hpoint⟩ := numberTail_numeric ht hvalue first (fractionText fraction ++ r)
    obtain ⟨unit, hunit⟩ := numberTail_fraction hfits hstops
      (Nat.ofDigitChars 10 (digits t) (c.toNat - '0'.toNat)) point
    rw [hpoint, hunit, ok_bind]
    simp only
    rcases unitLetters_cases [] unit r with ⟨name, behind, rfl, hname, hends⟩ | h
    case inr => exact .inr (.inr (refuses_bind h _))
    obtain ⟨letters, hletters⟩ := unitLetters_letters hname [] unit behind
    obtain ⟨next, hnext⟩ := unitLetters_ends hends (name.reverse ++ []) letters
    rw [hletters, hnext, ok_bind, List.append_nil, List.reverse_reverse]
    simp only
    rw [addSpan]
    cases hunit : TimeUnit.named? (String.ofList name) with
    | none =>
        refine .inr (.inr (refuses_bind (refuses_error ?_) _))
        split <;> simp
    | some u =>
        refine .inr (.inl ?_)
        let whole : Numeral := ⟨blanks ++ c :: t, ?_, c, by simp, hc⟩
        · have htext : whole.text = blanks ++ c :: t := rfl
          refine ⟨⟨whole, fraction, u, name, TimeUnit.named?_eq_some_iff.1 hunit⟩, behind, ?_,
            ⟨?_, hfits⟩, hends⟩
          · rw [Span.text]
            simp [htext]
          · change whole.value < UInt64.size
            rw [Numeral.value_of_text htext hblanks hc]
            exact hvalue
        · intro d hd
          rcases List.mem_append.1 hd with hd | hd
          · exact .inr (hblanks d hd)
          · rcases List.mem_cons.1 hd with rfl | hd
            · exact .inl hc
            · exact ht d hd
  · refine .inr (.inr ?_)
    rw [readSpans, herror]
    exact refuses_error (by simp)

/-! ## Spelled texts -/

/-- The text begins with these spans, one right behind the other, and `rest` is what is left. -/
structure Spells (s : List Char) (spans : List Span) (rest : List Char) : Prop where
  text_eq : s = spans.flatMap Span.text ++ rest
  fits : ∀ span ∈ spans, span.Fits
  ends : Ends rest

def amountsOf (spans : List Span) : List Amount :=
  spans.flatMap Span.amounts

theorem amountsOf_cons (span : Span) (spans : List Span) :
    amountsOf (span :: spans) = span.amounts ++ amountsOf spans :=
  List.flatMap_cons

theorem addAmounts_append (total : Duration) (as bs : List Amount) :
    total.addAmounts (as ++ bs) = total.addAmounts as >>= (addAmounts · bs) := by
  unfold addAmounts
  rw [List.foldlM_append]

theorem isNumeric_head_text {span : Span} {c : Char} (h : span.text.head? = some c) :
    IsNumeric c := by
  obtain ⟨d, hd, _⟩ := span.whole.has_digit
  cases hwhole : span.whole.text with
  | nil =>
      rw [hwhole] at hd
      cases hd
  | cons e whole =>
      have he : e ∈ span.whole.text := by
        rw [hwhole]
        exact List.mem_cons_self
      rw [Span.text, hwhole] at h
      cases h
      exact span.whole.numeric _ he

theorem Span.exists_addBlank {span : Span} {c : Char} {s : List Char}
    (hc : Text.isBlank c = true) (htext : span.text = c :: s) :
    ∃ span' : Span, span'.text = s ∧ span = span'.addBlank c hc := by
  obtain ⟨whole, fraction, unit, name, hname⟩ := span
  obtain ⟨d, hd, _⟩ := whole.has_digit
  cases hwhole : whole.text with
  | nil =>
      rw [hwhole] at hd
      cases hd
  | cons e w =>
      unfold text at htext
      rw [hwhole, List.cons_append] at htext
      obtain ⟨rfl, rfl⟩ := List.cons.inj htext
      obtain ⟨m, rfl, rfl⟩ := Numeral.exists_addBlank hc hwhole
      exact ⟨⟨m, fraction, unit, name, hname⟩, rfl, rfl⟩

theorem exists_text_eq_cons (span : Span) : ∃ c s, span.text = c :: s := by
  cases htext : span.text with
  | nil =>
      have hname : span.name = [] := (List.append_eq_nil_iff.1 (List.append_eq_nil_iff.1 htext).2).2
      exact absurd hname span.name_ne_nil
  | cons c s => exact ⟨c, s, rfl⟩

/-- Spans follow one another without anything between them: each starts where one may end. -/
theorem Spells.ends_text {s rest : List Char} {spans : List Span} (h : Spells s spans rest) :
    Ends s := by
  cases spans with
  | nil =>
      rw [h.text_eq]
      exact h.ends
  | cons span later =>
      intro c hc
      obtain ⟨d, t, htext⟩ := exists_text_eq_cons span
      rw [h.text_eq, List.flatMap_cons, htext] at hc
      cases hc
      exact isNumeric_head_text (by rw [htext]; rfl)

theorem spells_cons_iff {s rest : List Char} {span : Span} {later : List Span} :
    Spells s (span :: later) rest ↔
      ∃ t, s = span.text ++ t ∧ span.Fits ∧ Ends t ∧ Spells t later rest := by
  constructor
  · intro h
    have hlater : Spells (later.flatMap Span.text ++ rest) later rest :=
      ⟨rfl, fun span hspan => h.fits span (List.mem_cons_of_mem _ hspan), h.ends⟩
    refine ⟨_, ?_, h.fits span List.mem_cons_self, hlater.ends_text, hlater⟩
    rw [h.text_eq, List.flatMap_cons, List.append_assoc]
  · intro h
    obtain ⟨t, rfl, hfits, _, hlater⟩ := h
    refine ⟨?_, List.forall_mem_cons.2 ⟨hfits, hlater.fits⟩, hlater.ends⟩
    rw [List.flatMap_cons, List.append_assoc, ← hlater.text_eq]

/-- A blank in front of a spelled text becomes part of the first numeral, or of what is left. -/
theorem Spells.cons_blank {s rest : List Char} {spans : List Span} (h : Spells s spans rest)
    {c : Char} (hc : Text.isBlank c = true) :
    ∃ spans' rest', Spells (c :: s) spans' rest' ∧ amountsOf spans' = amountsOf spans ∧
      ((∀ d ∈ rest, Text.isBlank d = true) → ∀ d ∈ rest', Text.isBlank d = true) := by
  cases spans with
  | nil =>
      have hs : s = rest := h.text_eq
      have hends : Ends (c :: s) := by
        intro d hd
        cases hd
        exact .inr hc
      refine ⟨[], c :: s, ⟨rfl, h.fits, hends⟩, rfl, fun hblank => ?_⟩
      rw [hs]
      exact List.forall_mem_cons.2 ⟨hc, hblank⟩
  | cons span later =>
      obtain ⟨t, rfl, hfits, hends, hlater⟩ := spells_cons_iff.1 h
      refine ⟨span.addBlank c hc :: later, rest, spells_cons_iff.2
        ⟨t, rfl, (Span.fits_addBlank_iff hc).2 hfits, hends, hlater⟩, ?_, fun hblank => hblank⟩
      rw [amountsOf_cons, amountsOf_cons, Span.amounts_addBlank]

theorem Spells.of_afterBlank {s rest : List Char} {spans : List Span}
    (h : Spells (afterBlank s) spans rest) :
    ∃ spans' rest', Spells s spans' rest' ∧ amountsOf spans' = amountsOf spans ∧
      ((∀ d ∈ rest, Text.isBlank d = true) → ∀ d ∈ rest', Text.isBlank d = true) := by
  cases s with
  | nil => exact ⟨spans, rest, h, rfl, fun hblank => hblank⟩
  | cons c s =>
      rw [afterBlank] at h
      by_cases hc : Text.isBlank c = true
      · rw [if_pos hc] at h
        exact h.cons_blank hc
      · rw [if_neg hc] at h
        exact ⟨spans, rest, h, rfl, fun hblank => hblank⟩

/-- The blank that goes with a unit is no loss for the spans behind it. -/
theorem Spells.afterBlank {s rest : List Char} {span : Span} {later : List Span}
    (h : Spells s (span :: later) rest) :
    ∃ span', Spells (Duration.afterBlank s) (span' :: later) rest ∧
      span'.amounts = span.amounts := by
  cases s with
  | nil => exact ⟨span, h, rfl⟩
  | cons c s =>
      rw [Duration.afterBlank]
      by_cases hc : Text.isBlank c = true
      · rw [if_pos hc]
        obtain ⟨t, hsplit, hfits, hends, hlater⟩ := spells_cons_iff.1 h
        obtain ⟨d, u, htext⟩ := exists_text_eq_cons span
        rw [htext, List.cons_append] at hsplit
        obtain ⟨rfl, rfl⟩ := List.cons.inj hsplit
        obtain ⟨span', rfl, rfl⟩ := Span.exists_addBlank hc htext
        exact ⟨span', spells_cons_iff.2
          ⟨t, rfl, (Span.fits_addBlank_iff hc).1 hfits, hends, hlater⟩,
          (Span.amounts_addBlank span' hc).symm⟩
      · rw [if_neg hc]
        exact ⟨span, h, rfl⟩

theorem length_afterBlank_le (s : List Char) : (afterBlank s).length ≤ s.length := by
  cases s with
  | nil => exact Nat.le_refl _
  | cons c s =>
      rw [afterBlank]
      split
      · exact Nat.le_succ _
      · exact Nat.le_refl _

theorem isBlank_of_mem_afterBlank {s : List Char} (h : ∀ c ∈ s, Text.isBlank c = true) :
    ∀ c ∈ afterBlank s, Text.isBlank c = true := by
  cases s with
  | nil => exact h
  | cons c s =>
      rw [afterBlank, if_pos (h c List.mem_cons_self)]
      exact fun d hd => h d (List.mem_cons_of_mem _ hd)

theorem readSpans_blank {s : List Char} (h : ∀ c ∈ s, Text.isBlank c = true) (fuel : Nat)
    (total : Duration) (offset : Nat) : readSpans fuel total ⟨offset, s⟩ = .ok total := by
  cases fuel with
  | zero => rfl
  | succ fuel =>
      rw [readSpans, firstDigit_blank h, ok_bind]

theorem length_afterBlank_lt (span : Span) (s : List Char) :
    (afterBlank s).length < (span.text ++ s).length := by
  obtain ⟨c, t, htext⟩ := exists_text_eq_cons span
  have hle := length_afterBlank_le s
  rw [htext, List.length_append, List.length_cons]
  omega

theorem readSpans_of_spells_nil {s rest : List Char} (h : Spells s [] rest) (fuel offset : Nat)
    (total : Duration) :
    readSpans fuel total ⟨offset, s⟩ =
      total.addAmounts (amountsOf []) >>= fun sum => readSpans fuel sum ⟨offset, rest⟩ := by
  have hrest : s = rest := h.text_eq
  rw [hrest, amountsOf, List.flatMap_nil, addAmounts_nil, ok_bind]

/-- Spans that a text begins with are added, and then reading goes on behind them. -/
theorem readSpans_of_spells {fuel : Nat} {s rest : List Char} {spans : List Span}
    (h : Spells s spans rest) (hfuel : s.length ≤ fuel) (offset : Nat) :
    ∃ fuel' next rest', (rest' = rest ∨ rest' = afterBlank rest) ∧
      ∀ total : Duration, readSpans fuel total ⟨offset, s⟩ =
        total.addAmounts (amountsOf spans) >>= fun sum => readSpans fuel' sum ⟨next, rest'⟩ := by
  induction fuel generalizing offset s spans with
  | zero =>
      cases spans with
      | nil => exact ⟨0, offset, rest, .inl rfl, readSpans_of_spells_nil h 0 offset⟩
      | cons span later =>
          obtain ⟨t, rfl, _⟩ := spells_cons_iff.1 h
          have hlt := length_afterBlank_lt span t
          omega
  | succ fuel ih =>
      cases spans with
      | nil =>
          exact ⟨fuel + 1, offset, rest, .inl rfl, readSpans_of_spells_nil h (fuel + 1) offset⟩
      | cons span later =>
          obtain ⟨t, rfl, hfits, hends, hlater⟩ := spells_cons_iff.1 h
          obtain ⟨next, hstep⟩ := readSpans_span hfits hends fuel offset
          cases later with
          | nil =>
              have ht : t = rest := hlater.text_eq
              refine ⟨fuel, next, afterBlank t, .inr (by rw [ht]), fun total => ?_⟩
              rw [hstep, amountsOf_cons, amountsOf, List.flatMap_nil, List.append_nil]
          | cons second later =>
              -- The blank behind the first span is gone when the second is read, so the induction
              -- is on the second span without it.
              obtain ⟨span', hspells, hamounts⟩ := hlater.afterBlank
              have hlt := length_afterBlank_lt span t
              obtain ⟨fuel', next', rest', hrest', hread⟩ := ih hspells (by omega) next
              refine ⟨fuel', next', rest', hrest', fun total => ?_⟩
              have hsame : amountsOf (second :: later) = amountsOf (span' :: later) := by
                rw [amountsOf_cons, amountsOf_cons, hamounts]
              rw [hstep, amountsOf_cons, hsame, addAmounts_append, bind_assoc]
              exact bind_congr fun sum => hread sum

/-- A text that is not refused begins with spans that add up to what reading comes to. They go up to
the end, or to the crash. -/
theorem spells_of_readSpans {fuel offset : Nat} {total : Duration} {s : List Char}
    (hfuel : s.length ≤ fuel) (h : ¬ Refuses (readSpans fuel total ⟨offset, s⟩)) :
    ∃ spans rest, Spells s spans rest ∧
      total.addAmounts (amountsOf spans) = readSpans fuel total ⟨offset, s⟩ ∧
      ((∀ c ∈ rest, Text.isBlank c = true) ∨
        total.addAmounts (amountsOf spans) = .error .carryOverflow) := by
  induction fuel generalizing offset total s with
  | zero =>
      have hs : s = [] := List.length_eq_zero_iff.1 (Nat.le_zero.1 hfuel)
      subst hs
      exact ⟨[], [], ⟨rfl, by simp, by simp [Ends]⟩, rfl, .inl (by simp)⟩
  | succ fuel ih =>
      rcases readSpans_cases fuel total offset s with
        hblank | ⟨span, rest, rfl, hfits, hends⟩ | hrefuses
      · refine ⟨[], s, ⟨rfl, by simp, ?_⟩, ?_, .inl hblank⟩
        · exact fun c hc => .inr (hblank c (List.mem_of_mem_head? hc))
        · rw [readSpans_blank hblank]
          rfl
      · obtain ⟨next, hstep⟩ := readSpans_span hfits hends fuel offset
        rw [hstep] at h ⊢
        have hlt := length_afterBlank_lt span rest
        cases hsum : total.addAmounts span.amounts with
        | error fault =>
            rw [hsum, error_bind] at h
            have hcrash : fault = .carryOverflow := by
              by_cases hfault : fault = .carryOverflow
              · exact hfault
              · exact absurd (refuses_error hfault) h
            refine ⟨[span], rest, spells_cons_iff.2
              ⟨rest, rfl, hfits, hends, rfl, by simp, hends⟩, ?_, .inr ?_⟩
            · rw [amountsOf_cons, amountsOf, List.flatMap_nil, List.append_nil, hsum, error_bind]
            · rw [amountsOf_cons, amountsOf, List.flatMap_nil, List.append_nil, hsum, hcrash]
        | ok sum =>
            rw [hsum, ok_bind] at h
            obtain ⟨spans, behind, hspells, hread, hend⟩ := ih (by omega) h
            obtain ⟨spans', behind', hspells', hamounts, hblank⟩ := hspells.of_afterBlank
            refine ⟨span :: spans', behind', spells_cons_iff.2
              ⟨rest, rfl, hfits, hends, hspells'⟩, ?_, ?_⟩
            · rw [amountsOf_cons, hamounts, addAmounts_append, hsum, ok_bind, ok_bind, hread]
            · rw [amountsOf_cons, hamounts, addAmounts_append, hsum, ok_bind]
              exact hend.imp_left hblank
      · exact absurd hrefuses h

/-- Reading comes to a duration exactly if spans that add up to it spell the whole text. -/
theorem readSpans_ok_iff {fuel offset : Nat} {total d : Duration} {s : List Char}
    (hfuel : s.length ≤ fuel) :
    readSpans fuel total ⟨offset, s⟩ = .ok d ↔
      ∃ spans rest, Spells s spans rest ∧ (∀ c ∈ rest, Text.isBlank c = true) ∧
        Totals total.toNanos (amountsOf spans) d.toNanos := by
  constructor
  · intro h
    have hnot : ¬ Refuses (readSpans fuel total ⟨offset, s⟩) := by
      rw [h]
      intro hrefuses
      obtain ⟨_, _, hfault⟩ := hrefuses
      cases hfault
    obtain ⟨spans, rest, hspells, hread, hend⟩ := spells_of_readSpans hfuel hnot
    rw [h] at hread
    refine ⟨spans, rest, hspells, ?_, addAmounts_ok_iff.1 hread⟩
    rcases hend with hblank | hcrash
    · exact hblank
    · rw [hread] at hcrash
      cases hcrash
  · intro h
    obtain ⟨spans, rest, hspells, hblank, htotals⟩ := h
    obtain ⟨_, _, rest', hrest', hread⟩ := readSpans_of_spells hspells hfuel offset
    rw [hread, addAmounts_ok_iff.2 htotals, ok_bind]
    rcases hrest' with rfl | rfl
    · exact readSpans_blank hblank _ _ _
    · exact readSpans_blank (isBlank_of_mem_afterBlank hblank) _ _ _

/-- Reading crashes exactly if the text begins with spans that tip the total over. -/
theorem readSpans_crash_iff {fuel offset : Nat} {total : Duration} {s : List Char}
    (hfuel : s.length ≤ fuel) :
    readSpans fuel total ⟨offset, s⟩ = .error .carryOverflow ↔
      ∃ spans rest, Spells s spans rest ∧ TipsOver total.toNanos (amountsOf spans) := by
  constructor
  · intro h
    have hnot : ¬ Refuses (readSpans fuel total ⟨offset, s⟩) := by
      rw [h]
      intro hrefuses
      obtain ⟨fault, hfault, hsame⟩ := hrefuses
      exact hfault (Except.error.inj hsame).symm
    obtain ⟨spans, rest, hspells, hread, _⟩ := spells_of_readSpans hfuel hnot
    rw [h] at hread
    exact ⟨spans, rest, hspells, addAmounts_crash_iff.1 hread⟩
  · intro h
    obtain ⟨spans, rest, hspells, htips⟩ := h
    obtain ⟨_, _, _, _, hread⟩ := readSpans_of_spells hspells hfuel offset
    rw [hread, addAmounts_crash_iff.2 htips, error_bind]

end ProcessIntegrity.Duration
