import Mathlib.Data.List.TakeWhile
import ProcessIntegrity.Text.Blank
/-!
# What trimming leaves

A text is what trimming leaves of it, between two runs of blanks; and what stands between two runs
of blanks is what trimming leaves, if it neither starts nor ends with a blank. So blanks that are
put around a text, or taken away there, do not count.
-/

namespace ProcessIntegrity.Text

structure Bare (s : List Char) : Prop where
  head : ∀ c ∈ s.head?, isBlank c = false
  last : ∀ c ∈ s.getLast?, isBlank c = false

theorem isBlank_of_isDigit {c : Char} (h : c.isDigit = true) : isBlank c = false := by
  have hrange : 48 ≤ c.toNat ∧ c.toNat ≤ 57 := by
    simpa [Char.isDigit, UInt32.le_iff_toNat_le] using h
  simp only [isBlank, Bool.or_eq_false_iff, Bool.and_eq_false_iff, decide_eq_false_iff_not,
    beq_eq_false_iff_ne]
  omega

theorem bare_of_forall {s : List Char} (h : ∀ c ∈ s, isBlank c = false) : Bare s :=
  ⟨fun c hc => h c (List.mem_of_mem_head? hc), fun c hc => h c (List.mem_of_mem_getLast? hc)⟩

theorem dropWhile_isBlank_of_head {s : List Char} (h : ∀ c ∈ s.head?, isBlank c = false) :
    s.dropWhile isBlank = s := by
  cases s with
  | nil => rfl
  | cons c rest =>
      have hc : isBlank c = false := h c rfl
      simp [hc]

theorem head_dropWhile_isBlank (s : List Char) :
    ∀ c ∈ (s.dropWhile isBlank).head?, isBlank c = false := by
  intro c hc
  have hnot := List.head?_dropWhile_not isBlank s
  rw [Option.mem_def.1 hc] at hnot
  simpa using hnot

theorem trimEnd_append {s after : List Char} (hafter : ∀ c ∈ after, isBlank c = true)
    (hs : ∀ c ∈ s.getLast?, isBlank c = false) : trimEnd (s ++ after) = s := by
  have hreverse : ∀ c ∈ after.reverse, isBlank c = true := fun c hc =>
    hafter c (List.mem_reverse.1 hc)
  have hhead : ∀ c ∈ s.reverse.head?, isBlank c = false := by
    rw [List.head?_reverse]
    exact hs
  rw [trimEnd, List.reverse_append, List.dropWhile_append_of_pos hreverse,
    dropWhile_isBlank_of_head hhead, List.reverse_reverse]

/-- What stands between blanks is what trimming leaves. -/
theorem trim_padded {before s after : List Char} (hbefore : ∀ c ∈ before, isBlank c = true)
    (hafter : ∀ c ∈ after, isBlank c = true) (hs : Bare s) : trim (before ++ s ++ after) = s := by
  rw [trim, List.append_assoc, List.dropWhile_append_of_pos hbefore]
  cases s with
  | nil =>
      rw [List.nil_append, List.dropWhile_eq_nil_iff.2 hafter]
      rfl
  | cons c s =>
      have hhead : ∀ d ∈ (c :: s ++ after).head?, isBlank d = false := hs.head
      rw [dropWhile_isBlank_of_head hhead, trimEnd_append hafter hs.last]

theorem exists_trimEnd (s : List Char) :
    ∃ after, s = trimEnd s ++ after ∧ (∀ c ∈ after, isBlank c = true) ∧
      ∀ c ∈ (trimEnd s).getLast?, isBlank c = false := by
  refine ⟨(s.reverse.takeWhile isBlank).reverse, ?_, ?_, ?_⟩
  · rw [trimEnd, ← List.reverse_append, List.takeWhile_append_dropWhile, List.reverse_reverse]
  · intro c hc
    exact List.mem_takeWhile_imp (List.mem_reverse.1 hc)
  · rw [trimEnd, List.getLast?_reverse]
    exact head_dropWhile_isBlank s.reverse

/-- What trimming leaves stands between blanks. -/
theorem exists_padded (s : List Char) :
    ∃ before after, s = before ++ trim s ++ after ∧ (∀ c ∈ before, isBlank c = true) ∧
      (∀ c ∈ after, isBlank c = true) ∧ Bare (trim s) := by
  obtain ⟨after, hsplit, hafter, hlast⟩ := exists_trimEnd (s.dropWhile isBlank)
  have hhead : ∀ c ∈ (trim s).head?, isBlank c = false := by
    intro c hc
    apply head_dropWhile_isBlank s
    rw [hsplit, List.head?_append]
    exact Option.or_eq_some_iff.2 (.inl hc)
  refine ⟨s.takeWhile isBlank, after, ?_, fun c hc => List.mem_takeWhile_imp hc, hafter, hhead,
    hlast⟩
  rw [trim, List.append_assoc, ← hsplit, List.takeWhile_append_dropWhile]

/-! ## Blanks that do not count -/

/-- The text is `core` between two runs of blanks. Some of the blanks may be left to `core`. -/
def Padded (core s : List Char) : Prop :=
  ∃ before after, s = before ++ core ++ after ∧ (∀ c ∈ before, isBlank c = true) ∧
    ∀ c ∈ after, isBlank c = true

theorem padded_of_all (before after : List Char) {core s : List Char}
    (hs : s = before ++ core ++ after) (hbefore : before.all isBlank = true)
    (hafter : after.all isBlank = true) : Padded core s :=
  ⟨before, after, hs, List.all_eq_true.1 hbefore, List.all_eq_true.1 hafter⟩

theorem Padded.trim_eq {core s : List Char} (h : Padded core s) : trim s = trim core := by
  obtain ⟨before, after, rfl, hbefore, hafter⟩ := h
  obtain ⟨first, last, hcore, hfirst, hlast, hbare⟩ := exists_padded core
  have hfront : ∀ c ∈ before ++ first, isBlank c = true :=
    List.forall_mem_append.2 ⟨hbefore, hfirst⟩
  have hback : ∀ c ∈ last ++ after, isBlank c = true := List.forall_mem_append.2 ⟨hlast, hafter⟩
  calc
    trim (before ++ core ++ after) = trim (before ++ (first ++ trim core ++ last) ++ after) := by
      rw [← hcore]
    _ = trim (before ++ first ++ trim core ++ (last ++ after)) := by simp only [List.append_assoc]
    _ = trim core := trim_padded hfront hback hbare

theorem Bare.trim_eq {s : List Char} (h : Bare s) : trim s = s := by
  have hnone : ∀ c ∈ ([] : List Char), isBlank c = true := by simp
  simpa using trim_padded hnone hnone h

/-- A change of characters that makes no blank and spoils none can be made before or after. -/
theorem trim_map {f : Char → Char} (h : ∀ c, isBlank (f c) = isBlank c) (s : List Char) :
    trim (s.map f) = (trim s).map f := by
  have hsame : isBlank ∘ f = isBlank := funext h
  simp only [trim, trimEnd, List.dropWhile_map, hsame, ← List.map_reverse]

end ProcessIntegrity.Text
