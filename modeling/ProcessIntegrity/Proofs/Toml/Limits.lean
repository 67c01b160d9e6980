import ProcessIntegrity.Proofs.Toml.Layout
/-!
# How deep a document may go

Arrays may be nested 79 deep and a dotted key may have 79 steps; one more and the text is no
document (`read?_nested_iff`, `read?_dotted_iff`).
-/

namespace ProcessIntegrity.Toml

/-- An array within an array, and so on: so many opening brackets and as many closing ones. -/
def brackets (n : Nat) : List Char :=
  List.replicate n '[' ++ List.replicate n ']'

/-- A key of as many steps as there are points, and one more. -/
def points (n : Nat) : List Char :=
  (List.replicate n ['k', '.']).flatten ++ ['k']

theorem brackets_succ (n : Nat) (rest : List Char) :
    brackets (n + 1) ++ rest = '[' :: (brackets n ++ ']' :: rest) := by
  rw [brackets, brackets, List.replicate_succ, List.replicate_succ']
  simp

theorem points_succ (n : Nat) (rest : List Char) :
    points (n + 1) ++ rest = 'k' :: '.' :: (points n ++ rest) := by
  simp [points, List.replicate_succ]

/-! ## Arrays -/

theorem skipSpace_bracket (s : List Char) : skipSpace false ('[' :: s) = '[' :: s := by
  simp [skipSpace, isBlank]

theorem skipSpace_closing (s : List Char) : skipSpace false (']' :: s) = ']' :: s := by
  simp [skipSpace, isBlank]

theorem value_array {depth : Nat} {s rest : List Char} {v : Value}
    (h : value depth ('[' :: s) = some (v, ']' :: rest)) :
    value (depth + 1) ('[' :: '[' :: s) = some (.array [v], rest) := by
  rw [value, List.length_cons, arrayItems?, skipSpace_bracket]
  simp [h, skipSpace_closing]

theorem value_array_eq_none {depth : Nat} {s : List Char} (h : value depth ('[' :: s) = none) :
    value (depth + 1) ('[' :: '[' :: s) = none := by
  rw [value, List.length_cons, arrayItems?, skipSpace_bracket]
  simp [h]

/-- Every opening bracket takes one level of the depth that is left. -/
theorem value_brackets {n depth : Nat} (h : n < depth) (rest : List Char) :
    ∃ v, value depth (brackets (n + 1) ++ rest) = some (v, rest) := by
  induction n generalizing depth rest with
  | zero =>
      obtain ⟨depth, rfl⟩ := Nat.exists_eq_succ_of_ne_zero (Nat.ne_zero_of_lt h)
      exact ⟨.array [], rfl⟩
  | succ n ih =>
      obtain ⟨depth, rfl⟩ := Nat.exists_eq_succ_of_ne_zero (Nat.ne_zero_of_lt h)
      obtain ⟨v, hinner⟩ := ih (Nat.lt_of_succ_lt_succ h) (']' :: rest)
      rw [brackets_succ] at hinner ⊢
      rw [brackets_succ]
      exact ⟨.array [v], value_array hinner⟩

theorem value_brackets_eq_none {n depth : Nat} (h : depth ≤ n) (rest : List Char) :
    value depth (brackets (n + 1) ++ rest) = none := by
  induction depth generalizing n rest with
  | zero =>
      rw [brackets_succ, value]
      rfl
  | succ depth ih =>
      obtain ⟨n, rfl⟩ := Nat.exists_eq_succ_of_ne_zero (Nat.ne_zero_of_lt h)
      have hinner := ih (Nat.le_of_succ_le_succ h) (']' :: rest)
      rw [brackets_succ] at hinner ⊢
      rw [brackets_succ]
      exact value_array_eq_none hinner

/-! ## Keys -/

theorem keySteps?_point (fuel : Nat) (s : List Char) :
    keySteps? (fuel + 1) ('k' :: '.' :: s) =
      (keySteps? fuel s).map fun (steps, rest) => ("k" :: steps, rest) := by
  rw [keySteps?]
  have hstep : keyStep? (skipBlanks ('k' :: '.' :: s)) = some ("k", '.' :: s) := rfl
  have hskip : skipBlanks ('.' :: s) = '.' :: s := rfl
  simp only [hstep, hskip, Option.bind_eq_bind, Option.bind_some]
  cases keySteps? fuel s <;> rfl

theorem keySteps?_points {n fuel : Nat} (h : n < fuel) (rest : List Char) :
    keySteps? fuel (points n ++ '=' :: rest) =
      some (List.replicate (n + 1) "k", '=' :: rest) := by
  induction n generalizing fuel with
  | zero =>
      obtain ⟨fuel, rfl⟩ := Nat.exists_eq_succ_of_ne_zero (Nat.ne_zero_of_lt h)
      rfl
  | succ n ih =>
      obtain ⟨fuel, rfl⟩ := Nat.exists_eq_succ_of_ne_zero (Nat.ne_zero_of_lt h)
      rw [points_succ, keySteps?_point, ih (Nat.lt_of_succ_lt_succ h)]
      rfl

theorem keySteps?_points_eq_none {n fuel : Nat} (h : fuel ≤ n) (rest : List Char) :
    keySteps? fuel (points n ++ rest) = none := by
  induction fuel generalizing n with
  | zero => rfl
  | succ fuel ih =>
      obtain ⟨n, rfl⟩ := Nat.exists_eq_succ_of_ne_zero (Nat.ne_zero_of_lt h)
      rw [points_succ, keySteps?_point, ih (Nat.le_of_succ_le_succ h)]
      rfl

/-! ## Documents -/

theorem statement?_k (s : List Char) :
    statement? ('k' :: s) =
      (pair? (value maxDepth) ('k' :: s)).bind fun (((path, name), v), rest) =>
        (lineEnd? rest).map (.pair path name v, ·) := by
  rw [statement?]
  · cases pair? (value maxDepth) ('k' :: s) with
    | none => rfl
    | some r =>
        simp only [Option.bind_eq_bind, Option.bind_some]
        cases lineEnd? r.2 <;> rfl
  · simp
  · simp

theorem statements?_k (fuel : Nat) (s : List Char) :
    statements? (fuel + 1) ('k' :: s) =
      (statement? ('k' :: s)).bind fun (first, rest) =>
        (statements? fuel rest).map (first :: ·) := by
  have hskip : skipBlanks ('k' :: s) = 'k' :: s := rfl
  have hend : lineEnd? ('k' :: s) = none := rfl
  rw [statements?, hskip]
  simp only [hend]
  cases statement? ('k' :: s) with
  | none => rfl
  | some r =>
      simp only [Option.bind_eq_bind, Option.bind_some]
      cases statements? fuel r.2 <;> rfl

/-- A text of one pair is read if its pair is. -/
theorem read?_of_pair {s : List Char} {path : List String} {name : String} {v : Value}
    (h : pair? (value maxDepth) ('k' :: s) = some (((path, name), v), [])) :
    read? ('k' :: s) = (Entries.put name v path []).map Entries.toValues := by
  have hstatement : statement? ('k' :: s) = some (.pair path name v, []) := by
    rw [statement?_k, h]
    rfl
  have hall : statements? (('k' :: s).length + 1) ('k' :: s) = some [.pair path name v] := by
    rw [statements?_k, hstatement]
    rfl
  have hfront : dropByteOrderMark ('k' :: s) = 'k' :: s := rfl
  simp only [read?, hfront, hall, Option.bind_eq_bind, Option.bind_some, List.foldlM_cons,
    Statement.apply, Entries.alter]
  cases Entries.put name v path [] <;> rfl

theorem read?_of_not_pair {s : List Char} (h : pair? (value maxDepth) ('k' :: s) = none) :
    read? ('k' :: s) = none := by
  have hstatement : statement? ('k' :: s) = none := by
    rw [statement?_k, h]
    rfl
  have hfront : dropByteOrderMark ('k' :: s) = 'k' :: s := rfl
  rw [read?, hfront, statements?_k, hstatement]
  rfl

/-- Dotted keys make all the tables on their way. -/
theorem put_nil_isSome (name : String) (v : Value) (path : List String) :
    (Entries.put name v path []).isSome = true := by
  induction path with
  | nil => rfl
  | cons step path ih =>
      obtain ⟨es, hes⟩ := Option.isSome_iff_exists.1 ih
      simp only [Entries.put, List.lookup_nil, hes]
      rfl

theorem pair?_nested (n : Nat) :
    pair? (value maxDepth) ('k' :: '=' :: brackets (n + 1)) =
      (value maxDepth (brackets (n + 1))).map fun (v, rest) => ((([], "k"), v), rest) := by
  have hkey : key? ('k' :: '=' :: brackets (n + 1)) = some (["k"], '=' :: brackets (n + 1)) := rfl
  have hskip : skipBlanks (brackets (n + 1)) = brackets (n + 1) := rfl
  simp only [pair?, hkey, Option.bind_eq_bind, Option.bind_some, after?_self, hskip]
  cases value maxDepth (brackets (n + 1)) <;> rfl

theorem read?_nested_iff (n : Nat) :
    (read? ("k=".toList ++ brackets (n + 1))).isSome = true ↔ n + 1 ≤ 79 := by
  have htext : "k=".toList ++ brackets (n + 1) = 'k' :: '=' :: brackets (n + 1) := rfl
  have hall : brackets (n + 1) ++ [] = brackets (n + 1) := List.append_nil _
  rw [htext]
  by_cases hn : n < maxDepth
  · obtain ⟨v, hv⟩ := value_brackets hn []
    rw [hall] at hv
    rw [read?_of_pair (by rw [pair?_nested, hv]; rfl), Option.isSome_map]
    exact iff_of_true (put_nil_isSome _ _ _) hn
  · have hv := value_brackets_eq_none (Nat.le_of_not_lt hn) []
    rw [hall] at hv
    rw [read?_of_not_pair (by rw [pair?_nested, hv]; rfl)]
    exact iff_of_false (by simp) hn

theorem pair?_dotted {n : Nat} (h : n < maxKeySteps) :
    pair? (value maxDepth) (points n ++ "=1".toList) =
      some (((List.replicate n "k", "k"), .integer 1), []) := by
  have hkey : key? (points n ++ "=1".toList) = some (List.replicate (n + 1) "k", "=1".toList) :=
    keySteps?_points h ['1']
  have hsplit : splitKey? (List.replicate (n + 1) "k") = some (List.replicate n "k", "k") := by
    simp [splitKey?, List.getLast?_replicate]
  have hafter : after? '=' "=1".toList = some ['1'] := rfl
  have hvalue : value maxDepth (skipBlanks ['1']) = some (.integer 1, []) := by rfl
  simp only [pair?, hkey, hsplit, hafter, hvalue, Option.bind_eq_bind, Option.bind_some]
  rfl

theorem pair?_dotted_eq_none {n : Nat} (h : maxKeySteps ≤ n) :
    pair? (value maxDepth) (points n ++ "=1".toList) = none := by
  have hkey : key? (points n ++ "=1".toList) = none := keySteps?_points_eq_none h _
  simp only [pair?, hkey]
  rfl

theorem read?_dotted_iff (n : Nat) :
    (read? (points n ++ "=1".toList)).isSome = true ↔ n + 1 ≤ 79 := by
  have hfront : ∃ s, points n ++ "=1".toList = 'k' :: s := by cases n <;> exact ⟨_, rfl⟩
  obtain ⟨s, hs⟩ := hfront
  by_cases hn : n < maxKeySteps
  · have hpair := pair?_dotted hn
    rw [hs] at hpair ⊢
    rw [read?_of_pair hpair, Option.isSome_map]
    exact iff_of_true (put_nil_isSome _ _ _) hn
  · have hpair := pair?_dotted_eq_none (Nat.le_of_not_lt hn)
    rw [hs] at hpair ⊢
    rw [read?_of_not_pair hpair]
    exact iff_of_false (by simp) hn

end ProcessIntegrity.Toml
