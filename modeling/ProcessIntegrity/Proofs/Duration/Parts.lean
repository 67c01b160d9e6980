import ProcessIntegrity.Proofs.Duration.Written
/-!
# Reading the parts of a span

The reader goes through a span in three parts: blanks up to the first digit, the rest of the number,
and the letters of the unit. For each part there are two kinds of facts: a text of the right form is
read to its end, and a text that is not of the form is refused. No part can crash.
-/

namespace ProcessIntegrity.Duration

/-- What may stand behind a span: the end, a digit or a blank. -/
def Ends (s : List Char) : Prop :=
  ∀ c ∈ s.head?, IsNumeric c

/-- Where a number stops: at the end or before a unit. -/
def Stops (s : List Char) : Prop :=
  ∀ c ∈ s.head?, isUnitLetter c = true

def Refuses {α : Type} (x : Except Fault α) : Prop :=
  ∃ fault, fault ≠ .carryOverflow ∧ x = .error fault

theorem refuses_error {α : Type} {fault : Fault} (h : fault ≠ .carryOverflow) :
    Refuses (.error fault : Except Fault α) :=
  ⟨fault, h, rfl⟩

theorem refuses_bind {α β : Type} {x : Except Fault α} (h : Refuses x) (f : α → Except Fault β) :
    Refuses (x >>= f) := by
  obtain ⟨fault, hfault, rfl⟩ := h
  exact refuses_error hfault

def afterBlank : List Char → List Char
  | [] => []
  | c :: rest => if Text.isBlank c then rest else c :: rest

/-! ## The first digit -/

theorem firstDigit_blank {s : List Char} (h : ∀ c ∈ s, Text.isBlank c = true)
    (start offset : Nat) : firstDigit start offset s = .ok none := by
  induction s generalizing offset with
  | nil => rfl
  | cons c s ih =>
      have hblank := h c List.mem_cons_self
      rw [firstDigit, isDigit_of_isBlank hblank, hblank]
      exact ih (fun d hd => h d (List.mem_cons_of_mem _ hd)) _

theorem firstDigit_digit {blanks : List Char} (h : ∀ b ∈ blanks, Text.isBlank b = true) {c : Char}
    (hc : c.isDigit = true) (rest : List Char) (start offset : Nat) :
    ∃ next, firstDigit start offset (blanks ++ c :: rest) =
      .ok (some (c.toNat - '0'.toNat, ⟨next, rest⟩)) := by
  induction blanks generalizing offset with
  | nil =>
      refine ⟨offset + c.utf8Size, ?_⟩
      rw [List.nil_append, firstDigit, if_pos hc]
  | cons b blanks ih =>
      have hblank := h b List.mem_cons_self
      rw [List.cons_append, firstDigit, isDigit_of_isBlank hblank, hblank]
      exact ih (fun d hd => h d (List.mem_cons_of_mem _ hd)) _

theorem firstDigit_cases (start offset : Nat) (s : List Char) :
    (∀ c ∈ s, Text.isBlank c = true) ∨
      (∃ blanks c rest, s = blanks ++ c :: rest ∧ (∀ b ∈ blanks, Text.isBlank b = true) ∧
        c.isDigit = true) ∨
      firstDigit start offset s = .error (.numberExpected start) := by
  induction s generalizing offset with
  | nil => exact .inl (by simp)
  | cons c s ih =>
      by_cases hc : c.isDigit = true
      · exact .inr (.inl ⟨[], c, s, rfl, by simp, hc⟩)
      · by_cases hblank : Text.isBlank c = true
        · rcases ih (offset + c.utf8Size) with hall | ⟨blanks, d, rest, rfl, hblanks, hd⟩ | herror
          · exact .inl (List.forall_mem_cons.2 ⟨hblank, hall⟩)
          · exact .inr (.inl ⟨c :: blanks, d, rest, rfl,
              List.forall_mem_cons.2 ⟨hblank, hblanks⟩, hd⟩)
          · refine .inr (.inr ?_)
            rw [firstDigit, if_neg hc, if_pos hblank]
            exact herror
        · refine .inr (.inr ?_)
          rw [firstDigit, if_neg hc, if_neg hblank]

/-! ## The whole part -/

theorem ofDigitChars_mono {b n : Nat} (hb : 1 ≤ b) (s : List Char) :
    n ≤ Nat.ofDigitChars b s n := by
  induction s generalizing n with
  | nil => exact Nat.le_refl n
  | cons c s ih =>
      rw [Nat.ofDigitChars_cons]
      have hstep : n ≤ b * n + (c.toNat - '0'.toNat) := by
        have hmul := Nat.mul_le_mul_right n hb
        omega
      exact Nat.le_trans hstep ih

theorem numberTail_numeric {t : List Char} (ht : ∀ c ∈ t, IsNumeric c) {n : Nat}
    (hfits : Nat.ofDigitChars 10 (digits t) n < UInt64.size) (offset : Nat) (rest : List Char) :
    ∃ next, numberTail n offset (t ++ rest) =
      numberTail (Nat.ofDigitChars 10 (digits t) n) next rest := by
  induction t generalizing n offset with
  | nil => exact ⟨offset, rfl⟩
  | cons c t ih =>
      have hlater : ∀ d ∈ t, IsNumeric d := fun d hd => ht d (List.mem_cons_of_mem _ hd)
      rw [List.cons_append, numberTail]
      by_cases hc : c.isDigit = true
      · rw [digits_cons_digit hc, Nat.ofDigitChars_cons] at hfits ⊢
        have hfirst : 10 * n + (c.toNat - '0'.toNat) < UInt64.size :=
          Nat.lt_of_le_of_lt (ofDigitChars_mono (by decide) _) hfits
        simp only [if_pos hc, appendDigit]
        rw [fit_of_lt hfirst, ok_bind]
        exact ih hlater hfits _
      · have hblank := (ht c List.mem_cons_self).resolve_left hc
        rw [digits_cons_blank hblank] at hfits ⊢
        simp only [if_neg hc, if_pos hblank]
        exact ih hlater hfits _

theorem numberTail_stops {s : List Char} (h : Stops s) (n offset : Nat) :
    numberTail n offset s = .ok (n, none, ⟨offset, s⟩) := by
  cases s with
  | nil => rfl
  | cons c rest =>
      have hletter : isUnitLetter c = true := h c rfl
      rw [numberTail, isDigit_of_isUnitLetter hletter, isBlank_of_isUnitLetter hletter, hletter]
      rfl

theorem numberTail_point (n offset : Nat) (s : List Char) :
    numberTail n offset ('.' :: s) =
      (fractionDigits ⟨0, 1⟩ offset (offset + '.'.utf8Size) s >>= fun r =>
        .ok (n, some r.1, r.2)) := by
  have hdigit : ¬ '.'.isDigit = true := by decide
  have hblank : ¬ Text.isBlank '.' = true := by decide
  have hletter : ¬ isUnitLetter '.' = true := by decide
  rw [numberTail]
  simp only [if_neg hdigit, if_neg hblank, if_neg hletter, if_pos]

/-- The rest of a whole part reads up to a place where a number stops, or up to a point. -/
theorem numberTail_cases {n : Nat} (hn : n < UInt64.size) (offset : Nat) (s : List Char) :
    (∃ t rest, s = t ++ rest ∧ (∀ c ∈ t, IsNumeric c) ∧
        Nat.ofDigitChars 10 (digits t) n < UInt64.size ∧ (Stops rest ∨ rest.head? = some '.')) ∨
      Refuses (numberTail n offset s) := by
  induction s generalizing n offset with
  | nil => exact .inl ⟨[], [], rfl, by simp, hn, .inl (by simp [Stops])⟩
  | cons c s ih =>
      by_cases hc : c.isDigit = true
      · by_cases hfits : 10 * n + (c.toNat - '0'.toNat) < UInt64.size
        · rcases ih hfits (offset + c.utf8Size) with ⟨t, rest, rfl, ht, hvalue, hrest⟩ | hrefuses
          · refine .inl ⟨c :: t, rest, rfl, List.forall_mem_cons.2 ⟨.inl hc, ht⟩, ?_, hrest⟩
            rw [digits_cons_digit hc, Nat.ofDigitChars_cons]
            exact hvalue
          · refine .inr ?_
            rw [numberTail]
            simp only [if_pos hc, appendDigit]
            rw [fit_of_lt hfits, ok_bind]
            exact hrefuses
        · refine .inr ?_
          rw [numberTail]
          simp only [if_pos hc, appendDigit]
          rw [fit_of_ge (Nat.not_lt.1 hfits)]
          exact refuses_error (by decide)
      · by_cases hblank : Text.isBlank c = true
        · rcases ih hn (offset + c.utf8Size) with ⟨t, rest, rfl, ht, hvalue, hrest⟩ | hrefuses
          · refine .inl ⟨c :: t, rest, rfl, List.forall_mem_cons.2 ⟨.inr hblank, ht⟩, ?_, hrest⟩
            rw [digits_cons_blank hblank]
            exact hvalue
          · refine .inr ?_
            rw [numberTail]
            simp only [if_neg hc, if_pos hblank]
            exact hrefuses
        · by_cases hletter : isUnitLetter c = true
          · exact .inl ⟨[], c :: s, rfl, by simp, hn, .inl (by simp [Stops, hletter])⟩
          · by_cases hpoint : c = '.'
            · exact .inl ⟨[], c :: s, rfl, by simp, hn, .inr (by rw [hpoint]; rfl)⟩
            · refine .inr ?_
              rw [numberTail]
              simp only [if_neg hc, if_neg hblank, if_neg hletter, if_neg hpoint]
              exact refuses_error (by simp)

/-! ## The fraction -/

theorem fractionDigits_stops {s : List Char} (h : Stops s) (f : Fraction) (faultAt offset : Nat) :
    fractionDigits f faultAt offset s = finishFraction f faultAt ⟨offset, s⟩ := by
  cases s with
  | nil => rfl
  | cons c rest =>
      have hletter : isUnitLetter c = true := h c rfl
      rw [fractionDigits, isDigit_of_isUnitLetter hletter, isBlank_of_isUnitLetter hletter,
        hletter]
      rfl

/-- One more digit: the denominator is the one that may not fit. -/
theorem fractionDigits_digit {c : Char} (hc : c.isDigit = true) {f : Fraction}
    (hf : f.numerator < f.denominator) (hfits : 10 * f.denominator < UInt64.size)
    (faultAt offset : Nat) (rest : List Char) :
    10 * f.numerator + (c.toNat - '0'.toNat) < 10 * f.denominator ∧
      fractionDigits f faultAt offset (c :: rest) =
        fractionDigits ⟨10 * f.numerator + (c.toNat - '0'.toNat), 10 * f.denominator⟩
          (offset + c.utf8Size) (offset + c.utf8Size) rest := by
  have hbounds := isDigit_iff.1 hc
  have hzero : '0'.toNat = 48 := rfl
  have hlt : 10 * f.numerator + (c.toNat - '0'.toNat) < 10 * f.denominator := by omega
  refine ⟨hlt, ?_⟩
  rw [fractionDigits]
  simp only [if_pos hc, appendDigit]
  rw [fit_of_lt hfits, ok_bind, fit_of_lt (Nat.lt_trans hlt hfits), ok_bind]

theorem fractionDigits_numeric {t : List Char} (ht : ∀ c ∈ t, IsNumeric c) {f : Fraction}
    (hf : f.numerator < f.denominator)
    (hfits : f.denominator * 10 ^ (digits t).length < UInt64.size) (faultAt offset : Nat)
    (rest : List Char) :
    ∃ fault next, fractionDigits f faultAt offset (t ++ rest) =
      fractionDigits ⟨Nat.ofDigitChars 10 (digits t) f.numerator,
        f.denominator * 10 ^ (digits t).length⟩ fault next rest := by
  induction t generalizing f faultAt offset with
  | nil =>
      refine ⟨faultAt, offset, ?_⟩
      simp [digits]
  | cons c t ih =>
      have hlater : ∀ d ∈ t, IsNumeric d := fun d hd => ht d (List.mem_cons_of_mem _ hd)
      rw [List.cons_append]
      by_cases hc : c.isDigit = true
      · have hpow : f.denominator * 10 ^ (digits (c :: t)).length =
            10 * f.denominator * 10 ^ (digits t).length := by
          rw [digits_cons_digit hc, List.length_cons, Nat.pow_succ]
          ac_rfl
        have hone : 1 ≤ 10 ^ (digits t).length := Nat.pow_pos (by decide)
        rw [hpow] at hfits ⊢
        have hfirst : 10 * f.denominator < UInt64.size :=
          Nat.lt_of_le_of_lt (Nat.le_mul_of_pos_right _ hone) hfits
        obtain ⟨hlt, hstep⟩ := fractionDigits_digit hc hf hfirst faultAt offset (t ++ rest)
        rw [hstep, digits_cons_digit hc, Nat.ofDigitChars_cons]
        exact ih hlater hlt hfits _ _
      · have hblank := (ht c List.mem_cons_self).resolve_left hc
        rw [digits_cons_blank hblank] at hfits ⊢
        rw [fractionDigits]
        simp only [if_neg hc, if_pos hblank]
        exact ih hlater hf hfits _ _

theorem fractionDigits_cases {f : Fraction} (hf : f.numerator < f.denominator)
    (hden : f.denominator < UInt64.size) (faultAt offset : Nat) (s : List Char) :
    (∃ t rest, s = t ++ rest ∧ (∀ c ∈ t, IsNumeric c) ∧
        f.denominator * 10 ^ (digits t).length < UInt64.size ∧ Stops rest) ∨
      Refuses (fractionDigits f faultAt offset s) := by
  induction s generalizing f faultAt offset with
  | nil => exact .inl ⟨[], [], rfl, by simp, by simpa [digits] using hden, by simp [Stops]⟩
  | cons c s ih =>
      by_cases hc : c.isDigit = true
      · by_cases hfits : 10 * f.denominator < UInt64.size
        · obtain ⟨hlt, hstep⟩ := fractionDigits_digit hc hf hfits faultAt offset s
          rw [hstep]
          rcases ih (f := ⟨_, 10 * f.denominator⟩) hlt hfits (offset + c.utf8Size)
            (offset + c.utf8Size) with ⟨t, rest, rfl, ht, hvalue, hrest⟩ | hrefuses
          · refine .inl ⟨c :: t, rest, rfl, List.forall_mem_cons.2 ⟨.inl hc, ht⟩, ?_, hrest⟩
            rw [digits_cons_digit hc, List.length_cons, Nat.pow_succ]
            calc f.denominator * (10 ^ (digits t).length * 10)
                = 10 * f.denominator * 10 ^ (digits t).length := by ac_rfl
              _ < UInt64.size := hvalue
          · exact .inr hrefuses
        · refine .inr ?_
          rw [fractionDigits]
          simp only [if_pos hc]
          rw [fit_of_ge (Nat.not_lt.1 hfits)]
          exact refuses_error (by decide)
      · by_cases hblank : Text.isBlank c = true
        · rcases ih hf hden (offset + c.utf8Size) (offset + c.utf8Size) with
            ⟨t, rest, rfl, ht, hvalue, hrest⟩ | hrefuses
          · refine .inl ⟨c :: t, rest, rfl, List.forall_mem_cons.2 ⟨.inr hblank, ht⟩, ?_, hrest⟩
            rw [digits_cons_blank hblank]
            exact hvalue
          · refine .inr ?_
            rw [fractionDigits]
            simp only [if_neg hc, if_pos hblank]
            exact hrefuses
        · by_cases hletter : isUnitLetter c = true
          · exact .inl ⟨[], c :: s, rfl, by simp, by simpa [digits] using hden,
              by simp [Stops, hletter]⟩
          · refine .inr ?_
            rw [fractionDigits]
            simp only [if_neg hc, if_neg hblank, if_neg hletter]
            exact refuses_error (by simp)

/-! ## The unit -/

theorem unitLetters_letters {name : List Char} (h : ∀ c ∈ name, isUnitLetter c = true)
    (letters : List Char) (offset : Nat) (rest : List Char) :
    ∃ next, unitLetters letters offset (name ++ rest) =
      unitLetters (name.reverse ++ letters) next rest := by
  induction name generalizing letters offset with
  | nil => exact ⟨offset, rfl⟩
  | cons c name ih =>
      have hletter := h c List.mem_cons_self
      rw [List.cons_append, unitLetters, isDigit_of_isUnitLetter hletter,
        isBlank_of_isUnitLetter hletter, hletter, List.reverse_cons, List.append_assoc]
      exact ih (fun d hd => h d (List.mem_cons_of_mem _ hd)) _ _

theorem unitLetters_ends {s : List Char} (h : Ends s) (letters : List Char) (offset : Nat) :
    ∃ next, unitLetters letters offset s = .ok (letters.reverse, ⟨next, afterBlank s⟩) := by
  cases s with
  | nil => exact ⟨offset, rfl⟩
  | cons c rest =>
      rcases h c rfl with hdigit | hblank
      · refine ⟨offset, ?_⟩
        rw [unitLetters, afterBlank, hdigit, Text.isBlank_of_isDigit hdigit]
        rfl
      · refine ⟨offset + c.utf8Size, ?_⟩
        rw [unitLetters, afterBlank, isDigit_of_isBlank hblank, hblank]
        rfl

theorem unitLetters_cases (letters : List Char) (offset : Nat) (s : List Char) :
    (∃ name rest, s = name ++ rest ∧ (∀ c ∈ name, isUnitLetter c = true) ∧ Ends rest) ∨
      Refuses (unitLetters letters offset s) := by
  induction s generalizing letters offset with
  | nil => exact .inl ⟨[], [], rfl, by simp, by simp [Ends]⟩
  | cons c s ih =>
      by_cases hnumeric : IsNumeric c
      · exact .inl ⟨[], c :: s, rfl, by simp, by simpa [Ends] using hnumeric⟩
      · have hdigit : ¬ c.isDigit = true := fun hdigit => hnumeric (.inl hdigit)
        have hblank : ¬ Text.isBlank c = true := fun hblank => hnumeric (.inr hblank)
        rw [unitLetters]
        simp only [if_neg hdigit, if_neg hblank]
        by_cases hletter : isUnitLetter c = true
        · rw [if_pos hletter]
          rcases ih (c :: letters) (offset + c.utf8Size) with ⟨name, rest, rfl, hname, hrest⟩ | h
          · exact .inl ⟨c :: name, rest, rfl, List.forall_mem_cons.2 ⟨hletter, hname⟩, hrest⟩
          · exact .inr h
        · rw [if_neg hletter]
          exact .inr (refuses_error (by simp))

end ProcessIntegrity.Duration
