import Mathlib.Data.List.DropRight
import ProcessIntegrity.Proofs.Toml.Sound
import ProcessIntegrity.Proofs.Toml.Written
/-!
# Written documents

How a document is laid out in lines: headers and pairs, one a line, with blanks inside the lines,
comments behind them, and lines that say nothing anywhere between them. The reader takes such a text
for its statements (`statements?_writes`), and statements that give each table once, with its pairs
behind its header, for these tables (`read?_tables`).
-/

namespace ProcessIntegrity.Toml

/-! ## Forms -/

def Blanks (s : List Char) : Prop :=
  ∀ c ∈ s, isBlank c = true

inductive Filler : List Char → Prop
  | blanks {blanks : List Char} : Blanks blanks → Filler blanks
  | comment {blanks text : List Char} : Blanks blanks → (∀ c ∈ text, isCommentChar c = true) →
      Filler (blanks ++ '#' :: text)

/-- What ends a line, and what is left behind the line. The last line need not have a line end. -/
inductive Closes : List Char → List Char → Prop
  | lineFeed {filler rest : List Char} : Filler filler → Closes (filler ++ '\n' :: rest) rest
  | returned {filler rest : List Char} : Filler filler →
      Closes (filler ++ '\r' :: '\n' :: rest) rest
  | last {filler : List Char} : Filler filler → Closes filler []

structure IsBareKey (name : String) : Prop where
  ne_nil : name.toList ≠ []
  bare : ∀ c ∈ name.toList, isBareKeyChar c = true

inductive StatementText : Statement → List Char → Prop
  | table {name : String} {front behind : List Char} : IsBareKey name → Blanks front →
      Blanks behind →
      StatementText (.table [name]) ('[' :: (front ++ name.toList ++ behind ++ [']']))
  | pair {name : String} {v : Value} {behind front text : List Char} : IsBareKey name →
      Blanks behind → Blanks front → ValueText v text →
      StatementText (.pair [] name v) (name.toList ++ behind ++ '=' :: front ++ text)

/-- A text that says these statements, one a line. -/
inductive Writes : List Statement → List Char → Prop
  | nothing : Writes [] []
  | silent {statements : List Statement} {s rest : List Char} : Closes s rest →
      Writes statements rest → Writes statements s
  | line {first : Statement} {later : List Statement} {indent text s rest : List Char} :
      Blanks indent → StatementText first text → Closes s rest → Writes later rest →
      Writes (first :: later) (indent ++ text ++ s)

/-! ## Ends of lines -/

theorem blanks_nil : Blanks [] := by
  simp [Blanks]

theorem isBlank_cases {c : Char} (h : isBlank c = true) : c = ' ' ∨ c = '\t' := by
  rwa [isBlank, Bool.or_eq_true, beq_iff_eq, beq_iff_eq] at h

theorem Starts.not_isBlank {p : Char → Prop} {s : List Char} (h : Starts p s) (hspace : ¬ p ' ')
    (htab : ¬ p '\t') : Starts (isBlank · = false) s := by
  intro c hc
  rw [← Bool.not_eq_true]
  intro hblank
  rcases isBlank_cases hblank with rfl | rfl
  · exact hspace (h _ hc)
  · exact htab (h _ hc)

theorem Blanks.starts {p : Char → Prop} {blanks s : List Char} (h : Blanks blanks)
    (hspace : p ' ') (htab : p '\t') (hs : Starts p s) : Starts p (blanks ++ s) := by
  cases blanks with
  | nil => exact hs
  | cons c blanks =>
      rintro _ ⟨⟩
      rcases isBlank_cases (h c List.mem_cons_self) with rfl | rfl
      · exact hspace
      · exact htab

theorem dropWhile_append_eq {p : Char → Bool} {s t : List Char} (hs : ∀ c ∈ s, p c = true)
    (ht : Starts (p · = false) t) : (s ++ t).dropWhile p = t := by
  rw [List.dropWhile_append_of_pos hs]
  cases t with
  | nil => rfl
  | cons c t => simp [ht c rfl]

theorem skipBlanks_append {s t : List Char} (hs : Blanks s) (ht : Starts (isBlank · = false) t) :
    skipBlanks (s ++ t) = t :=
  dropWhile_append_eq hs ht

theorem lineEnd?_skipBlanks (s : List Char) : lineEnd? (skipBlanks s) = lineEnd? s := by
  have hskip : skipBlanks (skipBlanks s) = skipBlanks s := List.dropWhile_idempotent _ _
  rw [lineEnd?, lineEnd?, hskip]

/-- Up to the end of the line a filler is skipped. -/
theorem skip_filler {filler t : List Char} (h : Filler filler)
    (ht : Starts (fun c => c = '\n' ∨ c = '\r') t) :
    skipComment (skipBlanks (filler ++ t)) = t := by
  cases h with
  | blanks hblanks =>
      have hskip : skipBlanks (filler ++ t) = t :=
        skipBlanks_append hblanks (ht.not_isBlank (by decide) (by decide))
      rw [hskip, skipComment]
      exact ht.ne (by decide)
  | @comment _ text hblanks htext =>
      have hmark : Starts (isBlank · = false) ('#' :: text ++ t) := by
        rintro _ ⟨⟩
        decide
      rw [List.append_assoc, skipBlanks_append hblanks hmark, List.cons_append, skipComment]
      apply dropWhile_append_eq htext
      intro c hc
      rcases ht c hc with rfl | rfl <;> decide

theorem Closes.lineEnd? {s rest : List Char} (h : Closes s rest) : lineEnd? s = some rest := by
  cases h with
  | lineFeed hfiller =>
      rw [Toml.lineEnd?, skip_filler hfiller (by rintro _ ⟨⟩; decide)]
      rfl
  | returned hfiller =>
      rw [Toml.lineEnd?, skip_filler hfiller (by rintro _ ⟨⟩; decide)]
      rfl
  | last hfiller =>
      have hskip := skip_filler (t := []) hfiller (by simp [Starts])
      rw [List.append_nil] at hskip
      rw [Toml.lineEnd?, hskip]

theorem Filler.follows {filler t : List Char} (h : Filler filler) (ht : Follows t) :
    Follows (filler ++ t) := by
  cases h with
  | blanks hblanks => exact hblanks.starts (by decide) (by decide) ht
  | comment hblanks _ =>
      rw [List.append_assoc]
      refine hblanks.starts (by decide) (by decide) ?_
      rintro _ ⟨⟩
      decide

theorem Closes.follows {s rest : List Char} (h : Closes s rest) : Follows s := by
  cases h with
  | lineFeed hfiller => exact hfiller.follows (by rintro _ ⟨⟩; decide)
  | returned hfiller => exact hfiller.follows (by rintro _ ⟨⟩; decide)
  | last hfiller =>
      rw [← List.append_nil s]
      exact hfiller.follows (by simp [Starts])

/-- Every line takes something of the text, unless there is nothing left of it. -/
theorem Closes.length_lt {s rest : List Char} (h : Closes s rest) :
    rest.length < s.length ∨ s = [] ∧ rest = [] := by
  cases h with
  | lineFeed _ =>
      rw [List.length_append, List.length_cons]
      omega
  | returned _ =>
      rw [List.length_append, List.length_cons, List.length_cons]
      omega
  | last _ =>
      cases s with
      | nil => exact .inr ⟨rfl, rfl⟩
      | cons c s => exact .inl (Nat.succ_pos _)

/-! ## Keys -/

theorem isBareKey_of_all (name : String)
    (h : name.toList ≠ [] ∧ name.toList.all isBareKeyChar = true) : IsBareKey name :=
  ⟨h.1, List.all_eq_true.1 h.2⟩

section Keys

variable {name : String}

theorem IsBareKey.starts (h : IsBareKey name) (s : List Char) :
    Starts (isBareKeyChar · = true) (name.toList ++ s) :=
  starts_append h.ne_nil h.bare s

theorem IsBareKey.keyStep? (h : IsBareKey name) {s : List Char}
    (hs : Starts (isBareKeyChar · = false) s) : keyStep? (name.toList ++ s) = some (name, s) := by
  have htake : (name.toList ++ s).takeWhile isBareKeyChar = name.toList := by
    rw [List.takeWhile_append_of_pos h.bare]
    cases s with
    | nil => simp
    | cons c s => simp [hs c rfl]
  have hquoted := lineString?_eq_none ((h.starts s).not_mark (by decide) (by decide))
  simp only [Toml.keyStep?, hquoted, htake, dropWhile_append_eq h.bare hs, if_neg h.ne_nil,
    String.ofList_toList]

/-- A character behind a key that neither belongs to it nor continues it. -/
structure EndsKey (c : Char) : Prop where
  bare : isBareKeyChar c = false
  blank : isBlank c = false
  dot : c ≠ '.'

theorem IsBareKey.key? (h : IsBareKey name) {front behind : List Char} (hfront : Blanks front)
    (hbehind : Blanks behind) {c : Char} (hc : EndsKey c) (rest : List Char) :
    key? (front ++ (name.toList ++ (behind ++ c :: rest))) = some ([name], c :: rest) := by
  have hhead := (h.starts (behind ++ c :: rest)).not_isBlank (by decide) (by decide)
  have hnext : Starts (isBareKeyChar · = false) (behind ++ c :: rest) := by
    refine hbehind.starts (by decide) (by decide) ?_
    rintro _ ⟨⟩
    exact hc.bare
  have hskip : skipBlanks (behind ++ c :: rest) = c :: rest := by
    apply skipBlanks_append hbehind
    rintro _ ⟨⟩
    exact hc.blank
  rw [Toml.key?, maxKeySteps, keySteps?, skipBlanks_append hfront hhead, h.keyStep? hnext]
  simp only [Option.bind_eq_bind, Option.bind_some, hskip]
  split
  · next hdot => exact absurd (List.cons.inj hdot).1 hc.dot
  · rfl

end Keys

/-! ## Statements -/

theorem after?_self (c : Char) (s : List Char) : after? c (c :: s) = some s :=
  if_pos rfl

theorem pair?_written {name : String} {v : Value} {behind front text rest : List Char}
    (hname : IsBareKey name) (hbehind : Blanks behind) (hfront : Blanks front)
    (hv : ValueText v text) (hrest : Follows rest) :
    pair? (value maxDepth) (name.toList ++ (behind ++ '=' :: (front ++ (text ++ rest)))) =
      some ((([], name), v), rest) := by
  have hkey := hname.key? blanks_nil hbehind (c := '=') ⟨by decide, by decide, by decide⟩
    (front ++ (text ++ rest))
  have hskip : skipBlanks (front ++ (text ++ rest)) = text ++ rest :=
    skipBlanks_append hfront ((hv.starts rest).not_isBlank (by decide) (by decide))
  rw [List.nil_append] at hkey
  simp only [pair?, hkey, Option.bind_eq_bind, Option.bind_some, after?_self, hskip,
    value_written hv hrest]
  rfl

def StartsStatement (c : Char) : Prop :=
  c = '[' ∨ isBareKeyChar c = true
  deriving Decidable

theorem StatementText.starts {statement : Statement} {text : List Char}
    (h : StatementText statement text) (s : List Char) : Starts StartsStatement (text ++ s) := by
  cases h with
  | table _ _ _ =>
      rintro _ ⟨⟩
      exact .inl rfl
  | pair hname _ _ _ =>
      rw [List.append_assoc, List.append_assoc, List.append_assoc]
      exact fun c hc => .inr (hname.starts _ c hc)

theorem StatementText.ne_nil {statement : Statement} {text : List Char}
    (h : StatementText statement text) : text ≠ [] := by
  cases h <;> simp

/-- Every written statement is read, together with the end of its line. -/
theorem statement?_written {statement : Statement} {text s rest : List Char}
    (h : StatementText statement text) (hclose : Closes s rest) :
    statement? (text ++ s) = some (statement, rest) := by
  cases h with
  | @table name front behind hname hfront hbehind =>
      have hkey := hname.key? hfront hbehind (c := ']') ⟨by decide, by decide, by decide⟩ s
      simp only [List.cons_append, List.append_assoc, List.nil_append]
      rw [statement?]
      · simp only [hkey, Option.bind_eq_bind, Option.bind_some, after?_self, hclose.lineEnd?]
        rfl
      · have hstarts : Starts (· ≠ '[') (front ++ (name.toList ++ (behind ++ ']' :: s))) := by
          refine hfront.starts (by decide) (by decide) ?_
          intro c hc hbracket
          have hbare := hname.starts _ c hc
          rw [hbracket] at hbare
          cases hbare
        exact fun _ => hstarts.ne (by decide) _
  | @pair name v behind front text hname hbehind hfront hv =>
      have hpair := pair?_written hname hbehind hfront hv hclose.follows
      have hstarts := hname.starts (behind ++ '=' :: (front ++ (text ++ s)))
      simp only [List.append_assoc, List.cons_append]
      rw [statement?]
      · simp only [hpair, Option.bind_eq_bind, Option.bind_some, hclose.lineEnd?]
        rfl
      · exact fun _ => hstarts.ne (by decide) _
      · exact hstarts.ne (by decide)

/-! ## Texts -/

theorem lineEnd?_of_starts {s : List Char} (h : Starts (· ∉ valueEnds) s) (hne : s ≠ []) :
    lineEnd? s = none := by
  have hskip : skipBlanks s = s :=
    skipBlanks_append blanks_nil (h.not_isBlank (by decide) (by decide))
  have hcomment : skipComment s = s := by
    rw [skipComment]
    exact h.ne (by decide)
  rw [lineEnd?, hskip, hcomment]
  split
  · exact absurd rfl hne
  · rw [newline?]
    · exact h.ne (by decide)
    · exact fun _ => h.ne (by decide) _

theorem StartsStatement.not_mem_valueEnds {c : Char} (h : StartsStatement c) : c ∉ valueEnds := by
  intro hc
  rcases valueEnds_cases hc with rfl | rfl | rfl | rfl | rfl <;> exact absurd h (by decide)

/-- One step of reading, for a line that says nothing. -/
theorem statements?_silent {s rest : List Char} {statements : List Statement} {fuel : Nat}
    (hclose : Closes s rest) (hfuel : s.length < fuel)
    (hrest : ∀ fuel, rest.length < fuel → statements? fuel rest = some statements) :
    statements? fuel s = some statements := by
  obtain ⟨fuel, rfl⟩ := Nat.exists_eq_succ_of_ne_zero (Nat.ne_zero_of_lt hfuel)
  have hend := hclose.lineEnd?
  rw [← lineEnd?_skipBlanks] at hend
  rw [statements?]
  split
  · next hnil =>
      rw [hnil] at hend
      cases hend
      exact hrest 1 (by decide)
  · next hne =>
      have hlength : rest.length < s.length := by
        refine hclose.length_lt.resolve_right ?_
        rintro ⟨rfl, -⟩
        exact hne rfl
      rw [hend]
      exact hrest fuel (by omega)

/-- One step of reading, for a line that says something. -/
theorem statements?_line {first : Statement} {later : List Statement}
    {indent text s rest : List Char} {fuel : Nat} (hindent : Blanks indent)
    (hfirst : StatementText first text) (hclose : Closes s rest)
    (hfuel : (indent ++ text ++ s).length < fuel)
    (hrest : ∀ fuel, rest.length < fuel → statements? fuel rest = some later) :
    statements? fuel (indent ++ text ++ s) = some (first :: later) := by
  obtain ⟨fuel, rfl⟩ := Nat.exists_eq_succ_of_ne_zero (Nat.ne_zero_of_lt hfuel)
  have hstarts := hfirst.starts s
  have hskip : skipBlanks (indent ++ text ++ s) = text ++ s := by
    rw [List.append_assoc]
    exact skipBlanks_append hindent (hstarts.not_isBlank (by decide) (by decide))
  have hne : text ≠ [] := hfirst.ne_nil
  have hnoEnd : lineEnd? (text ++ s) = none :=
    lineEnd?_of_starts (fun c hc => (hstarts c hc).not_mem_valueEnds) (by simp [hne])
  have hread := statement?_written hfirst hclose
  rw [statements?, hskip]
  split
  · next hnil => simp [hne] at hnil
  · have hlength : rest.length < fuel := by
      have hpos := List.length_pos_iff.2 hne
      simp only [List.length_append] at hfuel
      rcases hclose.length_lt with hlt | ⟨rfl, rfl⟩
      · omega
      · rw [List.length_nil]
        omega
    rw [hnoEnd]
    simp only [hread, Option.bind_eq_bind, Option.bind_some, hrest fuel hlength]
    rfl

/-- A text that says statements is read as these statements. -/
theorem statements?_writes {statements : List Statement} {s : List Char}
    (h : Writes statements s) {fuel : Nat} (hfuel : s.length < fuel) :
    statements? fuel s = some statements := by
  induction h generalizing fuel with
  | nothing =>
      obtain ⟨fuel, rfl⟩ := Nat.exists_eq_succ_of_ne_zero (Nat.ne_zero_of_lt hfuel)
      rfl
  | silent hclose _ ih => exact statements?_silent hclose hfuel fun _ => ih
  | line hindent hfirst hclose _ ih =>
      exact statements?_line hindent hfirst hclose hfuel fun _ => ih

/-! ## Documents -/

theorem dropByteOrderMark_of_starts {s : List Char} (h : Starts (· ≠ '\ufeff') s) :
    dropByteOrderMark s = s := by
  rw [dropByteOrderMark]
  exact h.ne (by decide)

theorem Writes.starts {statements : List Statement} {s : List Char} (h : Writes statements s) :
    Starts (· ≠ '\ufeff') s := by
  cases h with
  | nothing => simp [Starts]
  | silent hclose _ =>
      rintro c hc rfl
      exact absurd (hclose.follows _ hc) (by decide)
  | line hindent hfirst _ _ =>
      rw [List.append_assoc]
      refine hindent.starts (by decide) (by decide) ?_
      rintro c hc rfl
      exact absurd (hfirst.starts _ _ hc) (by decide)

/-- A text that says statements is read as what these build. -/
theorem read?_writes {statements : List Statement} {s : List Char} {root : Draft.Root}
    (h : Writes statements s) (hroot : statements.foldlM Statement.apply ⟨[], []⟩ = some root) :
    read? s = some (Entries.toValues root.entries) := by
  rw [read?, dropByteOrderMark_of_starts h.starts, statements?_writes h (Nat.lt_succ_self _)]
  simp only [Option.bind_eq_bind, Option.bind_some, hroot]
  rfl

/-! ## Tables one after another -/

def tableStatements (t : String × List (String × Value)) : List Statement :=
  .table [t.1] :: t.2.map fun p => .pair [] p.1 p.2

def drafted (t : String × List (String × Value)) : String × Draft :=
  (t.1, .table .header (t.2.map fun p => (p.1, .leaf p.2)))

section Tables

variable {es : Entries} {name : String}

theorem lookup_eq_none {β : Type} {entries : List (String × β)} {key : String}
    (h : key ∉ entries.map Prod.fst) : entries.lookup key = none := by
  apply List.lookup_eq_none_iff.2
  intro e he
  apply bne_iff_ne.2
  rintro rfl
  exact h (List.mem_map_of_mem he)

theorem lookup_last (hname : name ∉ es.map Prod.fst) (d : Draft) :
    (es ++ [(name, d)]).lookup name = some d := by
  rw [List.lookup_append, lookup_eq_none hname]
  simp

theorem replace_last (hname : name ∉ es.map Prod.fst) (d d' : Draft) :
    Entries.replace name d' (es ++ [(name, d)]) = es ++ [(name, d')] := by
  have hsame : es.map (fun e => if e.1 = name then (name, d') else e) = es.map id := by
    apply List.map_congr_left
    intro e he
    rw [if_neg]
    · rfl
    · rintro rfl
      exact hname (List.mem_map_of_mem he)
  rw [Entries.replace, List.map_append, hsame]
  simp

/-- One more pair goes to the end of the table that was opened last. -/
theorem apply_pair (hname : name ∉ es.map Prod.fst) {inner : Entries} {key : String}
    (hkey : key ∉ inner.map Prod.fst) (v : Value) :
    Statement.apply ⟨es ++ [(name, .table .header inner)], [name]⟩ (.pair [] key v) =
      some ⟨es ++ [(name, .table .header (inner ++ [(key, .leaf v)]))], [name]⟩ := by
  simp only [Statement.apply, Entries.alter, lookup_last hname, Entries.put, lookup_eq_none hkey,
    replace_last hname]
  rfl

theorem foldlM_pairs (hname : name ∉ es.map Prod.fst) {inner : Entries}
    {pairs : List (String × Value)} (hnodup : (inner.map Prod.fst ++ pairs.map Prod.fst).Nodup) :
    (pairs.map fun p => Statement.pair [] p.1 p.2).foldlM Statement.apply
        ⟨es ++ [(name, .table .header inner)], [name]⟩ =
      some ⟨es ++ [(name, .table .header (inner ++ pairs.map fun p => (p.1, .leaf p.2)))],
        [name]⟩ := by
  induction pairs generalizing inner with
  | nil => simp
  | cons p pairs ih =>
      rw [List.map_cons] at hnodup
      have hkey : p.1 ∉ inner.map Prod.fst := fun hmem =>
        (List.nodup_append.1 hnodup).2.2 p.1 hmem p.1 List.mem_cons_self rfl
      rw [List.map_cons, List.foldlM_cons, apply_pair hname hkey, Option.bind_eq_bind,
        Option.bind_some, ih (by simpa using hnodup)]
      simp

theorem foldlM_tableStatements (hname : name ∉ es.map Prod.fst) {pairs : List (String × Value)}
    (hkeys : (pairs.map Prod.fst).Nodup) (path : List String) :
    (tableStatements (name, pairs)).foldlM Statement.apply ⟨es, path⟩ =
      some ⟨es ++ [drafted (name, pairs)], [name]⟩ := by
  have hopen : Statement.apply ⟨es, path⟩ (.table [name]) =
      some ⟨es ++ [(name, .table .header [])], [name]⟩ := by
    simp only [Statement.apply, Entries.atHeader, List.getLast?_singleton, List.dropLast_singleton,
      Option.bind_eq_bind, Option.bind_some, Entries.alter, Entries.openTable, lookup_eq_none hname]
    rfl
  rw [tableStatements, List.foldlM_cons, hopen, Option.bind_eq_bind, Option.bind_some,
    foldlM_pairs hname (by simpa using hkeys)]
  rfl

end Tables

theorem foldlM_tables {es : Entries} {tables : List (String × List (String × Value))}
    (hnames : (es.map Prod.fst ++ tables.map Prod.fst).Nodup)
    (hkeys : ∀ t ∈ tables, (t.2.map Prod.fst).Nodup) (path : List String) :
    ∃ last, (tables.flatMap tableStatements).foldlM Statement.apply ⟨es, path⟩ =
      some ⟨es ++ tables.map drafted, last⟩ := by
  induction tables generalizing es path with
  | nil => exact ⟨path, by simp⟩
  | cons t tables ih =>
      obtain ⟨ht, hkeys⟩ := List.forall_mem_cons.1 hkeys
      rw [List.map_cons] at hnames
      have hname : t.1 ∉ es.map Prod.fst := fun hmem =>
        (List.nodup_append.1 hnames).2.2 t.1 hmem t.1 List.mem_cons_self rfl
      have hnext : ((es ++ [drafted t]).map Prod.fst ++ tables.map Prod.fst).Nodup := by
        simpa [drafted] using hnames
      obtain ⟨last, hlast⟩ := ih hnext hkeys [t.1]
      refine ⟨last, ?_⟩
      rw [List.flatMap_cons, List.foldlM_append, foldlM_tableStatements hname ht,
        Option.bind_eq_bind, Option.bind_some, hlast]
      simp

/-- A text that gives tables one after another is the document of these tables. -/
theorem read?_tables {tables : List (String × List (String × Value))} {s : List Char}
    (hnames : (tables.map Prod.fst).Nodup) (hkeys : ∀ t ∈ tables, (t.2.map Prod.fst).Nodup)
    (h : Writes (tables.flatMap tableStatements) s) :
    read? s = some (tables.map fun t => (t.1, .table t.2)) := by
  have hfresh : (([] : Entries).map Prod.fst ++ tables.map Prod.fst).Nodup := by
    rwa [List.map_nil, List.nil_append]
  obtain ⟨last, hroot⟩ := foldlM_tables hfresh hkeys []
  rw [read?_writes h hroot, List.nil_append, Entries.toValues_eq_map, List.map_map]
  congr 1
  apply List.map_congr_left
  intro t _
  simp only [Function.comp_apply, drafted, Draft.toValue, Entries.toValues_eq_map, List.map_map]
  congr 2
  exact List.map_id _

end ProcessIntegrity.Toml
