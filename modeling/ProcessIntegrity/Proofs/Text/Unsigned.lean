import ProcessIntegrity.Proofs.Text.Trim
import ProcessIntegrity.Text.Decimal
/-!
# Which texts are numbers

The texts that stand for a natural number, said without the reader: digits, with any number of zeros
in front, and perhaps one plus sign before them. A reader takes exactly these, as far as the numbers
are below its bound.
-/

namespace ProcessIntegrity.Text

structure IsDecimal (s : List Char) (n : Nat) : Prop where
  ne_nil : s ≠ []
  digits : ∀ c ∈ s, c.isDigit = true
  value : digitsValue s = n

/-- As `IsDecimal`, with at most one plus sign in front. -/
inductive IsUnsigned : List Char → Nat → Prop
  | bare {s : List Char} {n : Nat} : IsDecimal s n → IsUnsigned s n
  | plus {s : List Char} {n : Nat} : IsDecimal s n → IsUnsigned ('+' :: s) n

/-- The digits of a number are all there is in it. -/
theorem notMem_repr {c : Char} (h : c.isDigit = false) (n : Nat) : c ∉ n.repr.toList := by
  rw [Nat.toList_repr]
  intro hmem
  have hdigit := Nat.isDigit_of_mem_toDigits (by decide) (by decide) hmem
  exact Bool.false_ne_true (h.symm.trans hdigit)

theorem IsDecimal.bare {s : List Char} {n : Nat} (h : IsDecimal s n) : Bare s :=
  bare_of_forall fun c hc => isBlank_of_isDigit (h.digits c hc)

theorem readDigits?_eq_some_iff {bound n : Nat} {s : List Char} :
    readDigits? bound s = some n ↔ IsDecimal s n ∧ n < bound := by
  unfold readDigits?
  constructor
  · intro h
    split at h
    · next ok =>
        obtain ⟨hne, hdigits, hbound⟩ := ok
        cases h
        exact ⟨⟨hne, List.all_eq_true.1 hdigits, rfl⟩, hbound⟩
    · cases h
  · rintro ⟨⟨hne, hdigits, rfl⟩, hbound⟩
    exact if_pos ⟨hne, List.all_eq_true.2 hdigits, hbound⟩

/-- A sign is no digit, so that behind it there are the digits and without it all is digits. -/
theorem readUnsigned?_eq_some_iff {bound n : Nat} {s : List Char} :
    readUnsigned? bound s = some n ↔ IsUnsigned s n ∧ n < bound := by
  constructor
  · intro h
    unfold readUnsigned? at h
    split at h
    · obtain ⟨hdecimal, hbound⟩ := readDigits?_eq_some_iff.1 h
      exact ⟨.plus hdecimal, hbound⟩
    · obtain ⟨hdecimal, hbound⟩ := readDigits?_eq_some_iff.1 h
      exact ⟨.bare hdecimal, hbound⟩
  · rintro ⟨hunsigned, hbound⟩
    cases hunsigned with
    | plus hdecimal => exact readDigits?_eq_some_iff.2 ⟨hdecimal, hbound⟩
    | bare hdecimal =>
        unfold readUnsigned?
        split
        · exact absurd (hdecimal.digits '+' List.mem_cons_self) (by decide)
        · exact readDigits?_eq_some_iff.2 ⟨hdecimal, hbound⟩

theorem isDecimal_toDigits (n : Nat) : IsDecimal (Nat.toDigits 10 n) n :=
  (readDigits?_eq_some_iff.1 (readDigits?_toDigits (Nat.lt_succ_self n))).1

end ProcessIntegrity.Text
