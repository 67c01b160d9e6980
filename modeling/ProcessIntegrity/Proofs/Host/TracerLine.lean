import Mathlib.Algebra.Group.Nat.Defs
import Mathlib.Data.List.Basic
import ProcessIntegrity.Host.Linux
import ProcessIntegrity.Proofs.Text.Lines
import ProcessIntegrity.Proofs.Text.Unsigned
/-!
# The line that names the tracing process

The number of the tracing process is what the first line with the label says, and nothing else in
the status text can change it: not the label inside another line, and not a later line with the
label, not even if the first one says no number (`tracerPid_first_line`).
-/

namespace ProcessIntegrity.Linux

theorem isPrefixOf?_eq_none_iff {line : List Char} :
    tracerLabel.isPrefixOf? line = none ↔ ¬ tracerLabel <+: line := by
  rw [← List.isPrefixOf_iff_prefix, ← List.isSome_isPrefixOf?_eq_isPrefixOf,
    Option.not_isSome_iff_eq_none]

theorem newline_not_mem_tracerLabel : '\n' ∉ tracerLabel := by decide

/-! ## The first line with the label -/

section

variable {status : String} {earlier later : List (List Char)} {rest : List Char}

theorem tracerPid?_of_no_label (h : ∀ line ∈ Text.lines status.toList, ¬ tracerLabel <+: line) :
    tracerPid? status = none := by
  have hnone : (Text.lines status.toList).findSome? (tracerLabel.isPrefixOf? ·) = none :=
    List.findSome?_eq_none_iff.2 fun line hline => isPrefixOf?_eq_none_iff.2 (h line hline)
  rw [tracerPid?, hnone, Option.bind_none]

theorem tracerPid?_of_first
    (hlines : Text.lines status.toList = earlier ++ (tracerLabel ++ rest) :: later)
    (hearlier : ∀ line ∈ earlier, ¬ tracerLabel <+: line) :
    tracerPid? status = Text.readUnsigned? UInt32.size (Text.trim rest) := by
  have hfirst : (Text.lines status.toList).findSome? (tracerLabel.isPrefixOf? ·) = some rest :=
    List.findSome?_eq_some_iff.2 ⟨earlier, tracerLabel ++ rest, later, hlines,
      List.isPrefixOf?_eq_some_iff_append_eq.2 rfl,
      fun line hline => isPrefixOf?_eq_none_iff.2 (hearlier line hline)⟩
  rw [tracerPid?, hfirst, Option.bind_some]

end

/-! ## Status texts with a number -/

/-- Behind `earlier` comes a line with the label and with `said`, as far as a carriage return at its
end is no part of the line. -/
theorem exists_lines_of_said {earlier : List (List Char)} (hearlier : ∀ line ∈ earlier, '\n' ∉ line)
    {said rest : List Char} (hne : said ≠ []) (hsaid : '\n' ∉ said)
    (hrest : ∀ c ∈ rest.head?, c = '\n') :
    ∃ said' later, Text.lines (earlier.flatMap (· ++ ['\n']) ++ (tracerLabel ++ said ++ rest)) =
      earlier.map Text.dropReturn ++ (tracerLabel ++ said') :: later ∧
        Text.trim said' = Text.trim said := by
  have hline : '\n' ∉ tracerLabel ++ said :=
    List.not_mem_append newline_not_mem_tracerLabel hsaid
  rw [Text.lines_flatMap_append hearlier]
  obtain ⟨later, hlines | hlines⟩ :=
    Text.exists_lines_append (List.append_ne_nil_of_right_ne_nil _ hne) hline hrest
  · exact ⟨said, later, by rw [hlines], rfl⟩
  · rw [Text.dropReturn_append_of_ne_nil _ hne] at hlines
    exact ⟨Text.dropReturn said, later, by rw [hlines], Text.trim_dropReturn said⟩

theorem tracerPid?_of_said {earlier : List (List Char)}
    (hearlier : ∀ line ∈ earlier, '\n' ∉ line ∧ ¬ tracerLabel <+: line) {said rest : List Char}
    (hne : said ≠ []) (hsaid : '\n' ∉ said) (hrest : ∀ c ∈ rest.head?, c = '\n') :
    tracerPid? (String.ofList (earlier.flatMap (· ++ ['\n']) ++ (tracerLabel ++ said ++ rest))) =
      Text.readUnsigned? UInt32.size (Text.trim said) := by
  have hlabels : ∀ line ∈ earlier.map Text.dropReturn, ¬ tracerLabel <+: line := by
    intro line hline hlabel
    obtain ⟨full, hfull, rfl⟩ := List.mem_map.1 hline
    exact (hearlier full hfull).2 (hlabel.trans (Text.dropReturn_prefix full))
  obtain ⟨said', later, hlines, htrim⟩ :=
    exists_lines_of_said (fun line hline => (hearlier line hline).1) hne hsaid hrest
  have hstatus := (congrArg Text.lines String.toList_ofList).trans hlines
  rw [tracerPid?_of_first hstatus hlabels, htrim]

/-- The lines of a status text are fixed by its line feeds. Without the label at the start of a line
there is no number. The first line with the label alone decides: its number is the one that stands
there between blanks, with at most a plus sign and zeros in front, if it has 32 bits. So a number
behind the label is found behind any lines without the label, whatever follows its line. -/
theorem tracerPid_first_line (status : String) :
    let lines := Text.lines status.toList
    (∀ ls, Text.SplitsInto status.toList ls ↔ ls = lines) ∧
    ((∀ line ∈ lines, ¬ tracerLabel <+: line) → tracerPid? status = none) ∧
    (∀ earlier rest later, lines = earlier ++ (tracerLabel ++ rest) :: later →
      (∀ line ∈ earlier, ¬ tracerLabel <+: line) →
        ∀ n, tracerPid? status = some n ↔ Text.IsUnsigned (Text.trim rest) n ∧ n < 2 ^ 32) ∧
    ∀ (earlier : List (List Char)) (n : UInt32) (before after rest : List Char),
      (∀ line ∈ earlier, '\n' ∉ line ∧ ¬ tracerLabel <+: line) →
      (∀ c ∈ before ++ after, Text.isBlank c = true) → '\n' ∉ before ++ after →
      (∀ c ∈ rest.head?, c = '\n') →
        tracerPid? (String.ofList (earlier.flatMap (· ++ ['\n']) ++
          (tracerLabel ++ (before ++ Nat.toDigits 10 n.toNat ++ after) ++ rest))) =
            some n.toNat := by
  intro lines
  refine ⟨fun ls => ?_, tracerPid?_of_no_label, ?_, ?_⟩
  · rw [← Text.lines_eq_iff]
    exact eq_comm
  · intro earlier rest later hlines hearlier n
    rw [tracerPid?_of_first hlines hearlier]
    exact Text.readUnsigned?_eq_some_iff
  · intro earlier n before after rest hearlier hblanks hfeed hrest
    obtain ⟨hbefore, hafter⟩ := List.forall_mem_append.1 hblanks
    have hdecimal := Text.isDecimal_toDigits n.toNat
    have hdigits : '\n' ∉ Nat.toDigits 10 n.toNat := fun hmem =>
      absurd (hdecimal.digits _ hmem) (by decide)
    have hsaid : '\n' ∉ before ++ Nat.toDigits 10 n.toNat ++ after := by
      simp only [List.mem_append, not_or] at hfeed ⊢
      exact ⟨⟨hfeed.1, hdigits⟩, hfeed.2⟩
    have hne : before ++ Nat.toDigits 10 n.toNat ++ after ≠ [] := by
      simp [hdecimal.ne_nil]
    rw [tracerPid?_of_said hearlier hne hsaid hrest, Text.trim_padded hbefore hafter hdecimal.bare]
    exact Text.readUnsigned?_eq_some_iff.2 ⟨.bare hdecimal, n.toNat_lt⟩

/-- The label inside a line in front of it, and a second line behind it, do not count; a first line
without a number hides the number of the second. -/
theorem tracerPid_first_line_spoofed :
    tracerPid? "Name:\tTracerPid: 7\r\nTracerPid:\u2003+0042\r\nTracerPid:\t9\n" = some 42 ∧
    tracerPid? "TracerPid:\t4294967296\nTracerPid:\t9\n" = none ∧
    tracerPid? " TracerPid:\t9" = none ∧
    tracerPid? "Name:\tTracerPid: 7\r\nTracerPid:\t42 \r\nTracerPid:\t9\n" = some 42 := by
  obtain ⟨-, -, hspoofed, hbehind⟩ := tracerPid_first_line
    "Name:\tTracerPid: 7\r\nTracerPid:\u2003+0042\r\nTracerPid:\t9\n"
  obtain ⟨-, -, hhidden, -⟩ := tracerPid_first_line "TracerPid:\t4294967296\nTracerPid:\t9\n"
  obtain ⟨-, hindented, -, -⟩ := tracerPid_first_line " TracerPid:\t9"
  refine ⟨?_, ?_, hindented (by decide), ?_⟩
  · apply (hspoofed ["Name:\tTracerPid: 7".toList] "\u2003+0042".toList ["TracerPid:\t9".toList] rfl
      (by decide) 42).2
    exact ⟨.plus ⟨List.cons_ne_nil _ _, List.all_eq_true.1 rfl, rfl⟩, by decide⟩
  · have hfirst := hhidden [] "\t4294967296".toList ["TracerPid:\t9".toList] rfl (by simp)
    have hlarge : Text.readUnsigned? (2 ^ 32) (Text.trim "\t4294967296".toList) = none := by decide
    refine Option.eq_none_iff_forall_ne_some.2 fun n hsome => ?_
    rw [Text.readUnsigned?_eq_some_iff.2 ((hfirst n).1 hsome)] at hlarge
    cases hlarge
  · exact hbehind ["Name:\tTracerPid: 7\r".toList] 42 ['\t'] [' ', '\r'] "\nTracerPid:\t9\n".toList
      (by decide) (List.all_eq_true.1 rfl) (by decide) (by rintro c ⟨⟩; rfl)

end ProcessIntegrity.Linux
