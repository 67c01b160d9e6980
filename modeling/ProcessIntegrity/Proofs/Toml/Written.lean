import Mathlib.Data.List.Basic
import ProcessIntegrity.Proofs.Duration.Written
import ProcessIntegrity.Toml.Document
/-!
# Written values

How truth values, natural numbers and strings are written in a TOML document, without the reader. A
character of a string may be written in several ways, but some cannot stand for themselves. The
reader takes every written value for what it is and goes on behind it (`value_written`), provided
that something follows that cannot belong to it.
-/

namespace ProcessIntegrity.Toml

/-! ## Forms -/

def letterEscapes : List (Char × Char) :=
  [('\x08', 'b'), ('\t', 't'), ('\n', 'n'), ('\x0c', 'f'), ('\r', 'r'), ('"', '"'), ('\\', '\\')]

structure NumberOf (c : Char) (digits : List Char) : Prop where
  digit : ∀ d ∈ digits, isDigitOf 16 d = true
  value : radixValue 16 digits = c.toNat

/-- A character in a basic string. The mark, the backslash and control characters are escaped. -/
inductive CharText (c : Char) : List Char → Prop
  | plain : 0x20 ≤ c.toNat → c.toNat ≠ 0x7f → c ≠ '"' → c ≠ '\\' → CharText c [c]
  | letter {l : Char} : (c, l) ∈ letterEscapes → CharText c ['\\', l]
  | short {digits : List Char} : digits.length = 4 → NumberOf c digits →
      CharText c ('\\' :: 'u' :: digits)
  | long {digits : List Char} : digits.length = 8 → NumberOf c digits →
      CharText c ('\\' :: 'U' :: digits)

inductive StringText : List Char → List Char → Prop
  | nil : StringText [] []
  | cons {c : Char} {s piece text : List Char} : CharText c piece → StringText s text →
      StringText (c :: s) (piece ++ text)

/-- A value within a line: a truth value, a natural number of 63 bits, or a basic string. -/
inductive ValueText : Value → List Char → Prop
  | boolean (on : Bool) : ValueText (.boolean on) (toString on).toList
  | integer {n : Nat} : n < 2 ^ 63 → ValueText (.integer n) (toString n).toList
  | string {s : String} {text : List Char} : StringText s.toList text →
      ValueText (.string s) ('"' :: text ++ ['"'])

/-- The text is empty, or its first character is of this kind. -/
def Starts (p : Char → Prop) (s : List Char) : Prop :=
  ∀ c ∈ s.head?, p c

/-- The characters that end a value: blanks, the start of a comment, and those of a line end. -/
def valueEnds : List Char :=
  [' ', '\t', '#', '\n', '\r']

/-- Nothing that could belong to a value is in front. -/
abbrev Follows : List Char → Prop :=
  Starts (· ∈ valueEnds)

/-! ## First characters -/

section Starts

variable {p : Char → Prop} {s : List Char}

theorem Starts.ne (h : Starts p s) {c : Char} (hc : ¬ p c) (t : List Char) : s ≠ c :: t := by
  rintro rfl
  exact hc (h c rfl)

theorem starts_append (hne : s ≠ []) (h : ∀ c ∈ s, p c) (t : List Char) : Starts p (s ++ t) := by
  intro c hc
  rw [List.head?_append_of_ne_nil _ hne] at hc
  exact h c (List.mem_of_mem_head? hc)

end Starts

theorem valueEnds_cases {c : Char} (h : c ∈ valueEnds) :
    c = ' ' ∨ c = '\t' ∨ c = '#' ∨ c = '\n' ∨ c = '\r' := by
  simpa [valueEnds] using h

theorem isDigit_of_mem {n : Nat} {c : Char} (h : c ∈ Nat.toDigits 10 n) : c.isDigit = true :=
  Nat.isDigit_of_mem_toDigits (by decide) (by decide) h

theorem starts_toDigits (n : Nat) (rest : List Char) :
    Starts (·.isDigit = true) (Nat.toDigits 10 n ++ rest) :=
  starts_append Nat.toDigits_ne_nil (fun _ => isDigit_of_mem) rest

/-! ## Strings -/

theorem isBasicChar_of_plain {c : Char} (hlow : 0x20 ≤ c.toNat) (hdelete : c.toNat ≠ 0x7f)
    (hmark : c ≠ '"') (hbackslash : c ≠ '\\') : isBasicChar c = true := by
  have hcomment : isCommentChar c = true := by
    simp only [isCommentChar, isBeyondAscii, Bool.or_eq_true, Bool.and_eq_true, decide_eq_true_eq,
      Char.le_def, UInt32.le_iff_toNat_le]
    change (_ ∨ 32 ≤ c.toNat ∧ c.toNat ≤ 126) ∨ 128 ≤ c.toNat
    omega
  simp [isBasicChar, hcomment, hmark, hbackslash]

theorem scalar?_of_numberOf {c : Char} {digits : List Char} (h : NumberOf c digits) :
    scalar? digits = some c := by
  have hvalid : digits.all (isDigitOf 16) ∧ (radixValue 16 digits).isValidChar := by
    rw [h.value]
    exact ⟨List.all_eq_true.2 h.digit, c.valid⟩
  rw [scalar?, dif_pos hvalid]
  exact congrArg some (Char.toNat_inj.1 h.value)

theorem escaped?_of_mem {c l : Char} (h : (c, l) ∈ letterEscapes) : escaped? l = some c := by
  have hall : ∀ e ∈ letterEscapes, escaped? e.2 = some e.1 := by decide
  exact hall (c, l) h

theorem basicChars?_letter {l : Char} (hu : l ≠ 'u') (hU : l ≠ 'U') (rest : List Char) :
    basicChars? ('\\' :: l :: rest) =
      (do return consTo (← escaped? l) (← basicChars? rest)) := by
  rw [basicChars?]
  · simp [hu]
  · simp [hU]

/-- However a character is written, it is read. -/
theorem basicChars?_charText {c : Char} {piece : List Char} (h : CharText c piece)
    (rest : List Char) : basicChars? (piece ++ rest) = consTo c <$> basicChars? rest := by
  cases h with
  | plain hlow hdelete hmark hbackslash =>
      have hbasic := isBasicChar_of_plain hlow hdelete hmark hbackslash
      rw [List.singleton_append, basicChars?]
      · rw [if_pos hbasic]
      · simp [hmark]
      · simp [hbackslash]
      · simp [hbackslash]
      · simp [hbackslash]
  | @letter l hmem =>
      have hplain : ∀ e ∈ letterEscapes, e.2 ≠ 'u' ∧ e.2 ≠ 'U' := by decide
      obtain ⟨hu, hU⟩ := hplain _ hmem
      have hread := basicChars?_letter hu hU rest
      rw [escaped?_of_mem hmem] at hread
      rw [List.cons_append, List.singleton_append, hread]
      cases basicChars? rest <;> rfl
  | @short digits hlength hnumber =>
      have hscalar := scalar?_of_numberOf hnumber
      match digits, hlength with
      | [d₁, d₂, d₃, d₄], _ =>
          simp only [List.cons_append, List.nil_append, basicChars?, hscalar]
          cases basicChars? rest <;> rfl
  | @long digits hlength hnumber =>
      have hscalar := scalar?_of_numberOf hnumber
      match digits, hlength with
      | [d₁, d₂, d₃, d₄, d₅, d₆, d₇, d₈], _ =>
          simp only [List.cons_append, List.nil_append, basicChars?, hscalar]
          cases basicChars? rest <;> rfl

theorem basicChars?_stringText {s text : List Char} (h : StringText s text) (rest : List Char) :
    basicChars? (text ++ '"' :: rest) = some (s, rest) := by
  induction h with
  | nil => rfl
  | cons hpiece _ ih =>
      rw [List.append_assoc, basicChars?_charText hpiece, ih]
      rfl

/-- A character as a basic string holds it, in the shortest way. -/
def escape (c : Char) : List Char :=
  match letterEscapes.lookup c with
  | some l => ['\\', l]
  | none =>
    if c.toNat < 0x20 ∨ c.toNat = 0x7f then
      ['\\', 'u', '0', '0', (c.toNat / 16).digitChar, (c.toNat % 16).digitChar]
    else
      [c]

theorem charText_escape (c : Char) : CharText c (escape c) := by
  rw [escape]
  cases hlookup : letterEscapes.lookup c with
  | some l =>
      obtain ⟨before, after, hsplit, -⟩ := List.lookup_eq_some_iff.1 hlookup
      exact .letter (by simp [hsplit])
  | none =>
      have hplain := List.lookup_eq_none_iff.1 hlookup
      by_cases hcontrol : c.toNat < 0x20 ∨ c.toNat = 0x7f
      · rw [if_pos hcontrol]
        have hall : ∀ n < 128,
            radixValue 16 ['0', '0', (n / 16).digitChar, (n % 16).digitChar] = n ∧
            ['0', '0', (n / 16).digitChar, (n % 16).digitChar].all (isDigitOf 16) = true := by
          decide
        obtain ⟨hvalue, hdigits⟩ := hall c.toNat (by omega)
        exact .short rfl ⟨List.all_eq_true.1 hdigits, hvalue⟩
      · rw [if_neg hcontrol]
        rw [not_or] at hcontrol
        refine .plain (by omega) hcontrol.2 ?_ ?_
        · rintro rfl
          exact absurd (hplain ('"', '"') (by decide)) (by decide)
        · rintro rfl
          exact absurd (hplain ('\\', '\\') (by decide)) (by decide)

theorem stringText_escape (s : List Char) : StringText s (s.flatMap escape) := by
  induction s with
  | nil => exact .nil
  | cons c s ih => exact .cons (charText_escape c) ih

/-- No written character starts with a mark, so that a string is not taken for one within three
marks. -/
theorem CharText.append_ne_mark {c : Char} {piece s t : List Char} (h : CharText c piece) :
    piece ++ s ≠ '"' :: t := by
  cases h with
  | plain _ _ hmark _ => simp [hmark]
  | letter _ => simp
  | short _ _ => simp
  | long _ _ => simp

theorem string?_stringText {s text rest : List Char} (h : StringText s text)
    (hrest : Follows rest) :
    string? ('"' :: text ++ '"' :: rest) = some (String.ofList s, rest) := by
  have hline : lineString? ('"' :: (text ++ '"' :: rest)) = some (String.ofList s, rest) := by
    rw [lineString?, basicChars?_stringText h]
    rfl
  rw [List.cons_append, string?]
  · exact hline
  · intro t ht
    cases h with
    | nil =>
        have hmark : rest = '"' :: t := (List.cons.inj (List.cons.inj ht).2).2
        exact hrest.ne (by decide) _ hmark
    | cons hpiece _ =>
        rw [List.append_assoc] at ht
        exact hpiece.append_ne_mark (List.cons.inj ht).2
  · simp

/-! ## Numbers -/

theorem isDigitOf_ten {c : Char} (h : c.isDigit = true) : isDigitOf 10 c = true := by
  have hbounds := Duration.isDigit_iff.1 h
  have hzero : '0'.toNat = 48 := rfl
  rw [isDigitOf, digitValue, if_pos h, decide_eq_true_eq]
  omega

theorem digitTail_digits {digits rest : List Char} (hdigits : ∀ c ∈ digits, c.isDigit = true)
    (hrest : Follows rest) : digitTail 10 (digits ++ rest) = (digits, rest) := by
  induction digits with
  | nil =>
      cases rest with
      | nil => rfl
      | cons c rest =>
          have hend : isDigitOf 10 c ≠ true := by
            rcases valueEnds_cases (hrest c rfl) with rfl | rfl | rfl | rfl | rfl <;> decide
          rw [List.nil_append, digitTail]
          · rw [if_neg hend]
          · rintro _ _ rfl _
            exact hrest.ne (by decide) _ rfl
  | cons c digits ih =>
      obtain ⟨hc, hdigits⟩ := List.forall_mem_cons.1 hdigits
      rw [List.cons_append, digitTail]
      · rw [if_pos (isDigitOf_ten hc), ih hdigits]
      · rintro _ _ rfl
        cases hc

theorem radixValue_eq_ofDigitChars {digits : List Char} (h : ∀ c ∈ digits, c.isDigit = true) :
    radixValue 10 digits = Nat.ofDigitChars 10 digits 0 := by
  rw [radixValue, Nat.ofDigitChars_eq_foldl]
  apply List.foldl_ext
  intro n c hc
  rw [digitValue, if_pos (h c hc)]

/-- Only zero is written with a zero in front. -/
theorem toDigits_cases (n : Nat) :
    Nat.toDigits 10 n = ['0'] ∨
      ∃ c digits, Nat.toDigits 10 n = c :: digits ∧ c ≠ '0' ∧ c.isDigit = true ∧
        ∀ d ∈ digits, d.isDigit = true := by
  have hhead : n = 0 ∨ (Nat.toDigits 10 n).head? ≠ some '0' := by
    induction n using Nat.strongRecOn with
    | ind n ih =>
        rw [Nat.toDigits_eq_if (by decide)]
        by_cases hlt : n < 10
        · rw [if_pos hlt]
          simpa using Decidable.em (n = 0)
        · right
          rw [if_neg hlt, List.head?_append_of_ne_nil _ Nat.toDigits_ne_nil]
          exact (ih (n / 10) (by omega)).resolve_left (by omega)
  rcases hhead with rfl | hhead
  · exact .inl rfl
  · right
    have hall : ∀ c ∈ Nat.toDigits 10 n, c.isDigit = true := fun c => isDigit_of_mem
    cases hdigits : Nat.toDigits 10 n with
    | nil => exact absurd hdigits Nat.toDigits_ne_nil
    | cons c digits =>
        rw [hdigits] at hhead hall
        obtain ⟨hc, hrest⟩ := List.forall_mem_cons.1 hall
        exact ⟨c, digits, rfl, fun h => hhead (congrArg some h), hc, hrest⟩

theorem takeSign_of_starts {s : List Char} (h : Starts (·.isDigit = true) s) :
    takeSign s = (false, s) := by
  rw [takeSign]
  · exact h.ne (by decide)
  · exact h.ne (by decide)

theorem plainDigits?_toDigits (n : Nat) {rest : List Char} (hrest : Follows rest) :
    plainDigits? (Nat.toDigits 10 n ++ rest) = some (Nat.toDigits 10 n, rest) := by
  rcases toDigits_cases n with hdigits | ⟨c, digits, hdigits, hzero, hc, hall⟩
  · rw [hdigits]
    rfl
  · rw [hdigits, List.cons_append, plainDigits?]
    · simp only [digits?, isDigitOf_ten hc, digitTail_digits hall hrest, if_true]
    · simpa using hzero

theorem fraction?_follows {rest : List Char} (hrest : Follows rest) : fraction? rest = none := by
  unfold fraction?
  split
  · exact absurd rfl (hrest.ne (by decide) _)
  · rfl

theorem exponent?_follows {rest : List Char} (hrest : Follows rest) : exponent? rest = none := by
  cases rest with
  | nil => rfl
  | cons c rest =>
      have hne : ¬ (c = 'e' ∨ c = 'E') := by
        rintro (rfl | rfl)
        · exact hrest.ne (by decide) _ rfl
        · exact hrest.ne (by decide) _ rfl
      rw [exponent?, if_neg hne]

theorem decimal?_toDigits (n : Nat) {rest : List Char} (hrest : Follows rest) :
    decimal? (Nat.toDigits 10 n ++ rest) = none := by
  have hsign := takeSign_of_starts (starts_toDigits n rest)
  simp only [decimal?, hsign, plainDigits?_toDigits n hrest, Option.bind_eq_bind, Option.bind_some,
    fraction?_follows hrest, exponent?_follows hrest, Option.bind_none]

theorem special?_of_starts {s : List Char} (h : Starts (·.isDigit = true) s) :
    special? s = none := by
  simp only [special?, takeSign_of_starts h]
  split
  · exact absurd rfl (h.ne (by decide) _)
  · exact absurd rfl (h.ne (by decide) _)
  · rfl

theorem integer?_toDigits {n : Nat} (hn : n < 2 ^ 63) {rest : List Char} (hrest : Follows rest) :
    integer? (Nat.toDigits 10 n ++ rest) = some ((n : Int), rest) := by
  have hvalue : radixValue 10 (Nat.toDigits 10 n) = n := by
    rw [radixValue_eq_ofDigitChars fun _ => isDigit_of_mem, Nat.ofDigitChars_ten_toDigits]
  have hsigned : signed? false n = some (n : Int) := by
    have hhalf : UInt64.size / 2 = 2 ^ 63 := by decide
    rw [signed?, if_neg (by decide), if_pos (by omega)]
  have hsign := takeSign_of_starts (starts_toDigits n rest)
  -- A base mark would have to stand behind a single zero.
  have hmark : ∀ d r, d ∉ valueEnds → Nat.toDigits 10 n ++ rest ≠ '0' :: d :: r := by
    intro d r hend h
    rcases toDigits_cases n with hdigits | ⟨c, digits, hdigits, hzero, -, -⟩
    · rw [hdigits] at h
      exact hrest.ne hend _ (List.cons.inj h).2
    · rw [hdigits] at h
      exact hzero (List.cons.inj h).1
  rw [integer?]
  · simp only [hsign, plainDigits?_toDigits n hrest, Option.bind_eq_bind, Option.bind_some, hvalue,
      hsigned]
    rfl
  · exact fun r h => hmark _ r (by decide) h
  · exact fun r h => hmark _ r (by decide) h
  · exact fun r h => hmark _ r (by decide) h

theorem number?_toDigits {n : Nat} (hn : n < 2 ^ 63) {rest : List Char} (hrest : Follows rest) :
    number? (Nat.toDigits 10 n ++ rest) = some (.integer n, rest) := by
  have hspecial := special?_of_starts (starts_toDigits n rest)
  simp only [number?, decimal?_toDigits n hrest, hspecial, integer?_toDigits hn hrest]
  rfl

/-! ## No dates -/

def DigitsThen (s : List Char) : Prop :=
  ∃ digits rest, s = digits ++ rest ∧ (∀ c ∈ digits, c.isDigit = true) ∧ Follows rest

theorem DigitsThen.tail {c : Char} {s : List Char} (h : DigitsThen (c :: s))
    (hc : c.isDigit = true) : DigitsThen s := by
  obtain ⟨digits, rest, hs, hdigits, hrest⟩ := h
  cases digits with
  | nil =>
      rw [List.nil_append] at hs
      rcases valueEnds_cases (hrest c (hs ▸ rfl)) with rfl | rfl | rfl | rfl | rfl <;> cases hc
  | cons d digits =>
      obtain ⟨-, rfl⟩ := List.cons.inj hs
      exact ⟨digits, rest, rfl, (List.forall_mem_cons.1 hdigits).2, hrest⟩

theorem DigitsThen.after?_eq_none {s : List Char} (h : DigitsThen s) {c : Char}
    (hdigit : ¬ c.isDigit = true) (hend : c ∉ valueEnds) : after? c s = none := by
  have hstarts : Starts (fun d => d.isDigit = true ∨ d ∈ valueEnds) s := by
    obtain ⟨digits, rest, rfl, hdigits, hrest⟩ := h
    cases digits with
    | nil => exact fun d hd => .inr (hrest d hd)
    | cons d digits =>
        rintro _ ⟨⟩
        exact .inl (hdigits d List.mem_cons_self)
  cases s with
  | nil => rfl
  | cons d s =>
      rw [after?, if_neg]
      rintro rfl
      exact hstarts.ne (not_or.2 ⟨hdigit, hend⟩) s rfl

theorem DigitsThen.fixedDigits? {s left : List Char} (h : DigitsThen s) {value count n : Nat}
    (hread : fixedDigits? value count s = some (n, left)) : DigitsThen left := by
  induction count generalizing value s with
  | zero =>
      cases hread
      exact h
  | succ count ih =>
      cases s with
      | nil => cases hread
      | cons c s =>
          rw [Toml.fixedDigits?] at hread
          split at hread
          · next hc => exact ih (h.tail hc) hread
          · cases hread

theorem DigitsThen.twoDigits? {s left : List Char} (h : DigitsThen s) {low high n : Nat}
    (hread : twoDigits? low high s = some (n, left)) : DigitsThen left := by
  unfold Toml.twoDigits? at hread
  obtain ⟨r, hfixed, hbounded⟩ := Option.bind_eq_some_iff.1 hread
  obtain ⟨_, _, hdone⟩ := Option.bind_eq_some_iff.1 hbounded
  cases hdone
  exact h.fixedDigits? hfixed

/-- A date has a dash and a time has a colon behind its first digits. -/
theorem dateTime?_eq_none {s : List Char} (h : DigitsThen s) : dateTime? s = none := by
  have hdate : date? s = none := by
    cases hyear : fixedDigits? 0 4 s with
    | none => simp [date?, hyear]
    | some r =>
        have hdash : after? '-' r.2 = none :=
          (h.fixedDigits? hyear).after?_eq_none (by decide) (by decide)
        simp [date?, hyear, hdash]
  have htime : time? s = none := by
    cases hhour : twoDigits? 0 23 s with
    | none => simp [time?, hhour]
    | some r =>
        have hcolon : after? ':' r.2 = none :=
          (h.twoDigits? hhour).after?_eq_none (by decide) (by decide)
        simp [time?, hhour, hcolon]
  simp [dateTime?, hdate, htime]

/-! ## Values -/

theorem scalar_toString_bool (on : Bool) (rest : List Char) :
    scalar ((toString on).toList ++ rest) = some (.boolean on, rest) := by
  cases on <;> rfl

theorem Starts.not_mark {p : Char → Prop} {s : List Char} (h : Starts p s) (hdouble : ¬ p '"')
    (hsingle : ¬ p '\x27') : Starts (fun c => c ≠ '"' ∧ c ≠ '\x27') s := by
  intro c hc
  constructor
  · rintro rfl
    exact hdouble (h _ hc)
  · rintro rfl
    exact hsingle (h _ hc)

theorem lineString?_eq_none {s : List Char} (h : Starts (fun c => c ≠ '"' ∧ c ≠ '\x27') s) :
    lineString? s = none := by
  rw [lineString?]
  · exact h.ne (by decide)
  · exact h.ne (by decide)

theorem string?_eq_none {s : List Char} (h : Starts (fun c => c ≠ '"' ∧ c ≠ '\x27') s) :
    string? s = none := by
  rw [string?]
  · exact lineString?_eq_none h
  · exact fun _ => h.ne (by decide) _
  · exact fun _ => h.ne (by decide) _

theorem scalar_toDigits {n : Nat} (hn : n < 2 ^ 63) {rest : List Char} (hrest : Follows rest) :
    scalar (Nat.toDigits 10 n ++ rest) = some (.integer n, rest) := by
  have hstarts := starts_toDigits n rest
  have hstring := string?_eq_none (hstarts.not_mark (by decide) (by decide))
  have hdate := dateTime?_eq_none ⟨Nat.toDigits 10 n, rest, rfl, fun _ => isDigit_of_mem, hrest⟩
  rw [scalar]
  · simp only [hstring, hdate, number?_toDigits hn hrest]
  · exact fun _ => hstarts.ne (by decide) _
  · exact fun _ => hstarts.ne (by decide) _

/-- Every written value is read for what it is, up to what follows it. -/
theorem scalar_written {v : Value} {text rest : List Char} (h : ValueText v text)
    (hrest : Follows rest) : scalar (text ++ rest) = some (v, rest) := by
  cases h with
  | boolean on => exact scalar_toString_bool on rest
  | integer hn =>
      rw [Nat.toString_eq_repr, Nat.toList_repr]
      exact scalar_toDigits hn hrest
  | @string s text hs =>
      have hread := string?_stringText hs hrest
      rw [String.ofList_toList] at hread
      rw [List.append_assoc, List.singleton_append]
      rw [List.cons_append] at hread ⊢
      rw [scalar]
      · rw [hread]
      · simp
      · simp

def StartsValue (c : Char) : Prop :=
  c = 't' ∨ c = 'f' ∨ c = '"' ∨ c.isDigit = true
  deriving Decidable

theorem ValueText.starts {v : Value} {text : List Char} (h : ValueText v text) (s : List Char) :
    Starts StartsValue (text ++ s) := by
  cases h with
  | boolean on =>
      cases on
      · rintro _ ⟨⟩
        exact .inr (.inl rfl)
      · rintro _ ⟨⟩
        exact .inl rfl
  | @integer n _ =>
      rw [Nat.toString_eq_repr, Nat.toList_repr]
      exact fun c hc => .inr (.inr (.inr (starts_toDigits n s c hc)))
  | string _ =>
      rintro _ ⟨⟩
      exact .inr (.inr (.inl rfl))

theorem value_written {v : Value} {text rest : List Char} (h : ValueText v text)
    (hrest : Follows rest) : value maxDepth (text ++ rest) = some (v, rest) := by
  rw [maxDepth, value]
  · exact scalar_written h hrest
  · exact (h.starts rest).ne (by decide)
  · exact (h.starts rest).ne (by decide)

end ProcessIntegrity.Toml
