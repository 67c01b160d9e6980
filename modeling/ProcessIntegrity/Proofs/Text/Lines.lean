import ProcessIntegrity.Proofs.Text.Trim
import ProcessIntegrity.Text.Lines
/-!
# Where the lines of a text are

The lines of a text said by what stands between its line feeds, without the reader that goes over it
character by character. Every text has lines in this sense, and they are those of the reader
(`lines_eq_iff`).
-/

namespace ProcessIntegrity.Text

/-- The text is these lines. Each ends with a line feed, or with a carriage return and a line feed;
the last one may also end with the text, if it is not empty. -/
inductive SplitsInto : List Char → List (List Char) → Prop
  | nil : SplitsInto [] []
  | last {line : List Char} : line ≠ [] → '\n' ∉ line → SplitsInto line [line]
  | feed {line rest : List Char} {later : List (List Char)} : '\n' ∉ line →
      line.getLast? ≠ some '\r' → SplitsInto rest later →
      SplitsInto (line ++ '\n' :: rest) (line :: later)
  | returnFeed {line rest : List Char} {later : List (List Char)} : '\n' ∉ line →
      SplitsInto rest later → SplitsInto (line ++ ['\r'] ++ '\n' :: rest) (line :: later)

theorem dropReturn_of_ne {line : List Char} (h : line.getLast? ≠ some '\r') :
    dropReturn line = line :=
  if_neg h

theorem dropReturn_append (line : List Char) : dropReturn (line ++ ['\r']) = line := by
  rw [dropReturn, List.getLast?_concat, if_pos rfl, List.dropLast_concat]

theorem dropReturn_prefix (line : List Char) : dropReturn line <+: line := by
  unfold dropReturn
  split
  · exact List.dropLast_prefix line
  · exact List.prefix_rfl

theorem dropReturn_append_of_ne_nil (front : List Char) {s : List Char} (h : s ≠ []) :
    dropReturn (front ++ s) = front ++ dropReturn s := by
  have hlast : (front ++ s).getLast? = s.getLast? := by
    rw [List.getLast?_append, List.getLast?_eq_some_getLast h, Option.some_or]
  unfold dropReturn
  rw [hlast, List.dropLast_append_of_ne_nil h]
  split
  · rfl
  · rfl

/-- A carriage return is a blank, so trimming does not care whether it was dropped. -/
theorem trim_dropReturn (s : List Char) : trim (dropReturn s) = trim s := by
  by_cases hreturn : s.getLast? = some '\r'
  · obtain ⟨front, rfl⟩ := List.getLast?_eq_some_iff.1 hreturn
    have hpadded : Padded front (front ++ ['\r']) := padded_of_all [] ['\r'] rfl rfl rfl
    rw [dropReturn_append, hpadded.trim_eq]
  · rw [dropReturn_of_ne hreturn]

/-! ## The reader -/

theorem linesFrom_cons {c : Char} (h : c ≠ '\n') (line rest : List Char) :
    linesFrom line (c :: rest) = linesFrom (c :: line) rest := by
  rw [linesFrom]
  exact h

/-- Up to the next line feed characters are only collected. -/
theorem linesFrom_append {s : List Char} (h : '\n' ∉ s) (line rest : List Char) :
    linesFrom line (s ++ rest) = linesFrom (s.reverse ++ line) rest := by
  induction s generalizing line with
  | nil => rfl
  | cons c s ih =>
      obtain ⟨hc, hs⟩ := List.ne_and_not_mem_of_not_mem_cons h
      rw [List.cons_append, linesFrom_cons hc.symm, ih hs, List.reverse_cons, List.append_assoc]
      rfl

theorem lines_append_newline {line : List Char} (h : '\n' ∉ line) (rest : List Char) :
    lines (line ++ '\n' :: rest) = dropReturn line :: lines rest := by
  rw [lines, linesFrom_append h, List.append_nil, linesFrom, List.reverse_reverse]
  rfl

theorem lines_of_not_mem {line : List Char} (hne : line ≠ []) (h : '\n' ∉ line) :
    lines line = [line] := by
  have hread := linesFrom_append h [] []
  rw [List.append_nil, List.append_nil] at hread
  rw [lines, hread, linesFrom, if_neg (by simpa using hne), List.reverse_reverse]

/-! ## All lines -/

theorem SplitsInto.lines_eq {s : List Char} {ls : List (List Char)} (h : SplitsInto s ls) :
    lines s = ls := by
  induction h with
  | nil => rfl
  | last hne hline => exact lines_of_not_mem hne hline
  | feed hline hreturn _ ih => rw [lines_append_newline hline, dropReturn_of_ne hreturn, ih]
  | @returnFeed line rest later hline _ ih =>
      have hfeed : '\n' ∉ line ++ ['\r'] := by simpa using hline
      rw [lines_append_newline hfeed, dropReturn_append, ih]

/-- A line that ends with a line feed is a line of one of the two kinds. -/
theorem SplitsInto.cons_line {line rest : List Char} {later : List (List Char)}
    (hline : '\n' ∉ line) (h : SplitsInto rest later) :
    SplitsInto (line ++ '\n' :: rest) (dropReturn line :: later) := by
  by_cases hreturn : line.getLast? = some '\r'
  · obtain ⟨front, rfl⟩ := List.getLast?_eq_some_iff.1 hreturn
    have hfront : '\n' ∉ front := fun hmem => hline (List.mem_append_left _ hmem)
    rw [dropReturn_append]
    exact .returnFeed hfront h
  · rw [dropReturn_of_ne hreturn]
    exact .feed hline hreturn h

/-- The characters collected so far stand, in reverse, in front of the rest. -/
theorem splitsInto_linesFrom {line : List Char} (h : '\n' ∉ line) (s : List Char) :
    SplitsInto (line.reverse ++ s) (linesFrom line s) := by
  induction s generalizing line with
  | nil =>
      rw [linesFrom, List.append_nil]
      split
      · next hnil =>
          rw [hnil]
          exact .nil
      · next hne =>
          exact .last (by simpa using hne) fun hmem => h (List.mem_reverse.1 hmem)
  | cons c s ih =>
      by_cases hc : c = '\n'
      · subst hc
        exact .cons_line (fun hmem => h (List.mem_reverse.1 hmem)) (ih List.not_mem_nil)
      · rw [linesFrom_cons hc, ← List.singleton_append, ← List.append_assoc, ← List.reverse_cons]
        exact ih (List.not_mem_cons_of_ne_of_not_mem (Ne.symm hc) h)

/-- The lines that are read are the lines that there are. -/
theorem lines_eq_iff {s : List Char} {ls : List (List Char)} : lines s = ls ↔ SplitsInto s ls := by
  constructor
  · rintro rfl
    exact splitsInto_linesFrom List.not_mem_nil s
  · exact SplitsInto.lines_eq

/-- Lines in front of a text that end with line feeds of their own. -/
theorem lines_flatMap_append {earlier : List (List Char)} (h : ∀ line ∈ earlier, '\n' ∉ line)
    (rest : List Char) :
    lines (earlier.flatMap (· ++ ['\n']) ++ rest) = earlier.map dropReturn ++ lines rest := by
  induction earlier with
  | nil => rfl
  | cons line earlier ih =>
      obtain ⟨hline, hearlier⟩ := List.forall_mem_cons.1 h
      rw [List.flatMap_cons, List.append_assoc, List.append_assoc, List.singleton_append,
        lines_append_newline hline, ih hearlier]
      rfl

/-- What stands before the first line feed, or before the end, is the first line. -/
theorem exists_lines_append {line rest : List Char} (hne : line ≠ []) (h : '\n' ∉ line)
    (hrest : ∀ c ∈ rest.head?, c = '\n') :
    ∃ later, lines (line ++ rest) = line :: later ∨
      lines (line ++ rest) = dropReturn line :: later := by
  cases rest with
  | nil =>
      rw [List.append_nil]
      exact ⟨[], .inl (lines_of_not_mem hne h)⟩
  | cons c rest =>
      rw [hrest c rfl]
      exact ⟨lines rest, .inr (lines_append_newline h rest)⟩

end ProcessIntegrity.Text
