import Mathlib
import ProcessIntegrity.Proofs.Settings.Changes
import ProcessIntegrity.Proofs.Settings.Contents
import ProcessIntegrity.Proofs.Settings.Reading
import ProcessIntegrity.Proofs.Toml.Limits
/-!
# What the text of a settings file comes to

A text is read in stages, and a later stage is reached only by a text that got through the earlier
ones: it has to be a TOML document, which has to have the form of a settings file, and only then the
threshold and after it the number of iterations are looked at. What comes out in the end is what the
document says, with the defaults for the rest.
-/

namespace ProcessIntegrity.Settings

open Toml (Value TableSound)

/-- The settings are as the document says, and where it says nothing as in `defaults`; logging has
defaults of its own. -/
structure Filled (defaults : Settings) (document : List (String × Value)) (s : Settings) :
    Prop where
  exceptionCheck : Taken (fun on => ProbeSays document "enable_exception_check" (.boolean on))
    defaults.probe.exceptionCheck s.probe.exceptionCheck
  threshold : Taken
    (fun d => ∃ raw, ProbeSays document "timing_threshold" (.string raw) ∧ IsThreshold raw d)
    defaults.probe.threshold s.probe.threshold
  iterations : Taken
    (fun n : UInt32 => ProbeSays document "workload_iterations" (.integer n.toNat))
    defaults.probe.iterations s.probe.iterations
  block : Taken (fun on => ProbeSays document "block_on_detection" (.boolean on))
    defaults.block s.block
  enabled : Taken (fun on => LogSays document "enable" (.boolean on)) false s.logging.enabled
  file : ∀ path, s.logging.file = some path ↔ LogSays document "file" (.string path)
  level : Taken (fun name => LogSays document "level" (.string name)) "INFO" s.logging.level

def ThresholdFine (document : List (String × Value)) : Prop :=
  ∀ raw, ProbeSays document "timing_threshold" (.string raw) → ∃ d, IsThreshold raw d

/-- What a document of the right form comes to: its threshold is looked at first, then its number of
iterations. -/
inductive Judged (defaults : Settings) (document : List (String × Value)) :
    Except Stop Settings → Prop
  | noThreshold {raw : String} {stop : Stop} :
      ProbeSays document "timing_threshold" (.string raw) → NoThreshold raw stop →
      Judged defaults document (.error stop)
  | outOfBounds {n : UInt32} : ThresholdFine document →
      ProbeSays document "workload_iterations" (.integer n.toNat) → OutOfBounds n →
      Judged defaults document (.error (.failed (.invalidValue iterationsKey (toString n))))
  | settings {s : Settings} : ThresholdFine document →
      (∀ n : UInt32, ProbeSays document "workload_iterations" (.integer n.toNat) →
        ¬ OutOfBounds n) →
      Filled defaults document s → Judged defaults document (.ok s)

/-! ## One result at most -/

theorem not_thresholdFine {document : List (String × Value)} {raw : String} {stop : Stop}
    (hraw : ProbeSays document "timing_threshold" (.string raw)) (hnot : NoThreshold raw stop) :
    ¬ ThresholdFine document := by
  intro hfine
  obtain ⟨d, hd⟩ := hfine raw hraw
  have hok := readThreshold_eq_ok_iff.2 hd
  rw [readThreshold_eq_error_iff.2 hnot] at hok
  cases hok

theorem count_unique {document : List (String × Value)} (hsound : TableSound document)
    {name : String} {m n : UInt32} (hm : ProbeSays document name (.integer m.toNat))
    (hn : ProbeSays document name (.integer n.toNat)) : m = n :=
  UInt32.toNat_inj.1 (Int.ofNat.inj (Value.integer.inj (hm.unique hsound hn)))

theorem filled_unique {defaults : Settings} {document : List (String × Value)}
    (hsound : TableSound document) {s s' : Settings} (h : Filled defaults document s)
    (h' : Filled defaults document s') : s = s' := by
  have hexception := h.exceptionCheck.unique h'.exceptionCheck fun _ _ ha hb =>
    Value.boolean.inj (ha.unique hsound hb)
  have hthreshold := h.threshold.unique h'.threshold fun d e hd he => by
    obtain ⟨raw, hraw, hd⟩ := hd
    obtain ⟨raw', hraw', he⟩ := he
    rw [← Value.string.inj (hraw.unique hsound hraw')] at he
    exact Except.ok.inj (hd.1.symm.trans he.1)
  have hiterations := h.iterations.unique h'.iterations fun _ _ => count_unique hsound
  have hblock := h.block.unique h'.block fun _ _ ha hb => Value.boolean.inj (ha.unique hsound hb)
  have henabled := h.enabled.unique h'.enabled fun _ _ ha hb =>
    Value.boolean.inj (ha.unique hsound hb)
  have hfile : s.logging.file = s'.logging.file :=
    Option.ext fun path => (h.file path).trans (h'.file path).symm
  have hlevel := h.level.unique h'.level fun _ _ ha hb => Value.string.inj (ha.unique hsound hb)
  obtain ⟨⟨_, _, _⟩, _, ⟨_, _, _⟩⟩ := s
  obtain ⟨⟨_, _, _⟩, _, ⟨_, _, _⟩⟩ := s'
  simp_all

theorem judged_unique {defaults : Settings} {document : List (String × Value)}
    (hsound : TableSound document) {r r' : Except Stop Settings} (h : Judged defaults document r)
    (h' : Judged defaults document r') : r = r' := by
  cases h with
  | noThreshold hraw hnot =>
      cases h' with
      | noThreshold hraw' hnot' =>
          rw [← Value.string.inj (hraw.unique hsound hraw')] at hnot'
          have hsame := readThreshold_eq_error_iff.2 hnot'
          rw [readThreshold_eq_error_iff.2 hnot] at hsame
          rw [Except.error.inj hsame]
      | outOfBounds hfine _ _ => exact absurd hfine (not_thresholdFine hraw hnot)
      | settings hfine _ _ => exact absurd hfine (not_thresholdFine hraw hnot)
  | outOfBounds hfine hn hbounds =>
      cases h' with
      | noThreshold hraw hnot => exact absurd hfine (not_thresholdFine hraw hnot)
      | outOfBounds _ hn' _ => rw [count_unique hsound hn hn']
      | settings _ hwithin _ => exact absurd hbounds (hwithin _ hn)
  | settings hfine hwithin hfilled =>
      cases h' with
      | noThreshold hraw hnot => exact absurd hfine (not_thresholdFine hraw hnot)
      | outOfBounds _ hn hbounds => exact absurd hbounds (hwithin _ hn)
      | settings _ _ hfilled' => rw [filled_unique hsound hfilled hfilled']

/-! ## The changes of a section -/

theorem result_changes_of_noThreshold {s : Settings} {asked : ProbeSection} {raw : String}
    {stop : Stop} (hraw : asked.threshold = some raw) (hstop : readThreshold raw = .error stop) :
    (change s asked.changes).result = .error stop := by
  simp only [ProbeSection.changes, present, hraw, Option.map_some, map_eq_error_iff.2 hstop]
  cases asked.exceptionCheck <;> rfl

theorem result_changes_of_outOfBounds {s : Settings} {asked : ProbeSection} {n : UInt32}
    (hthreshold : ∀ raw, asked.threshold = some raw → ∃ d, readThreshold raw = .ok d)
    (hn : asked.iterations = some n) (hbounds : OutOfBounds n) :
    (change s asked.changes).result =
      .error (.failed (.invalidValue iterationsKey (toString n))) := by
  have hrefused : checkIterations "probe.workload_iterations" n =
      .error (refused iterationsKey (toString n)) := checkIterations_of_outOfBounds _ hbounds
  simp only [ProbeSection.changes, present, hn, Option.map_some, map_eq_error_iff.2 hrefused]
  cases hraw : asked.threshold with
  | none => cases asked.exceptionCheck <;> rfl
  | some raw =>
      obtain ⟨d, hd⟩ := hthreshold raw hraw
      simp only [Option.map_some, map_eq_ok_iff.2 ⟨d, hd, rfl⟩]
      cases asked.exceptionCheck <;> rfl

theorem change_changes_of_fine {s : Settings} {asked : ProbeSection} {threshold : Option Duration}
    (hthreshold : asked.threshold.map readThreshold = threshold.map .ok)
    (hiterations : ∀ n, asked.iterations = some n → ¬ OutOfBounds n) :
    change s asked.changes =
      ⟨⟨⟨asked.exceptionCheck.getD s.probe.exceptionCheck, threshold.getD s.probe.threshold,
          asked.iterations.getD s.probe.iterations⟩, asked.block.getD s.block, s.logging⟩,
        .ok ()⟩ := by
  have hfirst : (asked.threshold.map fun raw => Change.threshold <$> readThreshold raw) =
      threshold.map fun d => .ok (.threshold d) := by
    have hmapped := congrArg (Option.map (Change.threshold <$> ·)) hthreshold
    rw [Option.map_map, Option.map_map] at hmapped
    exact hmapped
  have hsecond : (asked.iterations.map fun n =>
      Change.iterations <$> checkIterations "probe.workload_iterations" n) =
      asked.iterations.map fun n => .ok (.iterations n) := by
    apply Option.map_congr
    intro n hn
    rw [checkIterations_of_not_outOfBounds _ (hiterations n hn)]
    rfl
  simp only [ProbeSection.changes, present, hfirst, hsecond]
  cases asked.exceptionCheck <;> cases threshold <;> cases asked.iterations <;>
    cases asked.block <;> rfl

/-! ## Documents of the right form -/

theorem exists_threshold {document : List (String × Value)} {file : File}
    (hholds : Holds document file) (hfine : ThresholdFine document) :
    ∃ threshold : Option Duration,
      file.probe.threshold.map readThreshold = threshold.map .ok ∧
      ∀ d, threshold = some d ↔
        ∃ raw, ProbeSays document "timing_threshold" (.string raw) ∧ IsThreshold raw d := by
  simp only [← hholds.threshold]
  cases hraw : file.probe.threshold with
  | none => exact ⟨none, rfl, by simp⟩
  | some raw =>
      obtain ⟨d, hd⟩ := hfine raw ((hholds.threshold raw).1 hraw)
      have hread : readThreshold raw = .ok d := readThreshold_eq_ok_iff.2 hd
      refine ⟨some d, congrArg some hread, fun e => ?_⟩
      simp only [Option.some.injEq, exists_eq_left', ← readThreshold_eq_ok_iff, hread,
        Except.ok.injEq]

theorem filled_of_holds {defaults : Settings} {document : List (String × Value)} {file : File}
    (hholds : Holds document file) {threshold : Option Duration}
    (hthreshold : ∀ d, threshold = some d ↔
      ∃ raw, ProbeSays document "timing_threshold" (.string raw) ∧ IsThreshold raw d) :
    Filled defaults document
      ⟨⟨file.probe.exceptionCheck.getD defaults.probe.exceptionCheck,
        threshold.getD defaults.probe.threshold,
        file.probe.iterations.getD defaults.probe.iterations⟩,
        file.probe.block.getD defaults.block, file.logging⟩ where
  exceptionCheck := taken_getD hholds.exceptionCheck _
  threshold := taken_getD hthreshold _
  iterations := taken_getD hholds.iterations _
  block := taken_getD hholds.block _
  enabled := hholds.enabled
  file := hholds.path
  level := hholds.level

theorem parse_of_ofDocument {defaults : Settings} {text : String} {document : List (String × Value)}
    {file : File} (hread : Toml.read? text.toList = some document)
    (hfile : File.ofDocument document = .ok file) :
    parse defaults text =
      (change { defaults with logging := file.logging } file.probe.changes).result.map fun _ =>
        (change { defaults with logging := file.logging } file.probe.changes).settings := by
  simp only [parse, hread, hfile]

/-- What is read from a document of the right form is what it comes to. -/
theorem judged_parse {defaults : Settings} {text : String} {document : List (String × Value)}
    (hread : Toml.read? text.toList = some document) (hfits : Fits document) :
    Judged defaults document (parse defaults text) := by
  obtain ⟨file, hfile⟩ := exists_ofDocument_iff.2 hfits
  have hholds : Holds document file := holds_ofDocument (Toml.tableSound_read? hread) hfile
  rw [parse_of_ofDocument hread hfile]
  by_cases hfine : ThresholdFine document
  · -- Of the four changes of a section only the number of iterations can still be refused.
    obtain ⟨threshold, hsame, hthreshold⟩ := exists_threshold hholds hfine
    by_cases hwithin : ∀ n, file.probe.iterations = some n → ¬ OutOfBounds n
    · rw [change_changes_of_fine hsame hwithin]
      refine .settings hfine (fun n hn => hwithin n ((hholds.iterations n).2 hn)) ?_
      exact filled_of_holds hholds hthreshold
    · have hbad : ∃ n, file.probe.iterations = some n ∧ OutOfBounds n := by
        simpa only [not_forall, not_not, exists_prop] using hwithin
      obtain ⟨n, hn, hbounds⟩ := hbad
      have hread : ∀ raw, file.probe.threshold = some raw → ∃ d, readThreshold raw = .ok d := by
        intro raw hraw
        obtain ⟨d, hd⟩ := hfine raw ((hholds.threshold raw).1 hraw)
        exact ⟨d, readThreshold_eq_ok_iff.2 hd⟩
      rw [result_changes_of_outOfBounds hread hn hbounds]
      exact .outOfBounds hfine ((hholds.iterations n).1 hn) hbounds
  · have hbad : ∃ raw, ProbeSays document "timing_threshold" (.string raw) ∧
        ¬ ∃ d, IsThreshold raw d := by
      simpa only [ThresholdFine, not_forall, exists_prop] using hfine
    obtain ⟨raw, hraw, hnot⟩ := hbad
    cases hstop : readThreshold raw with
    | ok d => exact absurd ⟨d, readThreshold_eq_ok_iff.1 hstop⟩ hnot
    | error stop =>
        rw [result_changes_of_noThreshold ((hholds.threshold raw).2 hraw) hstop]
        exact .noThreshold hraw (readThreshold_eq_error_iff.1 hstop)

/-! ## All texts -/

theorem parse_of_none {defaults : Settings} {text : String}
    (hread : Toml.read? text.toList = none) :
    parse defaults text = .error (.failed .notToml) := by
  simp only [parse, hread]

theorem parse_of_not_fits (defaults : Settings) {text : String}
    {document : List (String × Value)} (hread : Toml.read? text.toList = some document)
    (hfits : ¬ Fits document) :
    ∃ fault, parse defaults text = .error (.failed (.wrongForm fault)) := by
  cases hfile : File.ofDocument document with
  | ok file => exact absurd (exists_ofDocument_iff.1 ⟨file, hfile⟩) hfits
  | error fault =>
      refine ⟨fault, ?_⟩
      simp only [parse, hread, hfile]

/-- What is wrong with a document of the right form is a value in it. -/
theorem Judged.ne_toml {defaults : Settings} {document : List (String × Value)}
    {r : Except Stop Settings} (h : Judged defaults document r) :
    r ≠ .error (.failed .notToml) ∧ ∀ fault, r ≠ .error (.failed (.wrongForm fault)) := by
  cases h with
  | noThreshold _ hnot => cases hnot <;> simp
  | outOfBounds _ _ _ => simp
  | settings _ _ _ => simp

theorem parse_eq_notToml_iff {defaults : Settings} {text : String} :
    parse defaults text = .error (.failed .notToml) ↔ Toml.read? text.toList = none := by
  cases hread : Toml.read? text.toList with
  | none => simp [parse_of_none hread]
  | some document =>
      have hne : parse defaults text ≠ .error (.failed .notToml) := by
        by_cases hfits : Fits document
        · exact (judged_parse hread hfits).ne_toml.1
        · obtain ⟨fault, hfault⟩ := parse_of_not_fits defaults hread hfits
          simp [hfault]
      simp [hne]

/-- The stages of reading a settings file, for every text. It is refused as no TOML exactly if it is
none, and as of the wrong form exactly if it is a document without the form of a settings file,
whatever else may be wrong with it. A document of that form comes to what its values come to. -/
theorem parse_stages (defaults : Settings) (text : String) :
    (parse defaults text = .error (.failed .notToml) ↔ Toml.read? text.toList = none) ∧
    ((∃ fault, parse defaults text = .error (.failed (.wrongForm fault))) ↔
      ∃ document, Toml.read? text.toList = some document ∧ ¬ Fits document) ∧
    ∀ document, Toml.read? text.toList = some document →
      TableSound document ∧
        (Fits document → ∀ r, parse defaults text = r ↔ Judged defaults document r) := by
  refine ⟨parse_eq_notToml_iff, ?_⟩
  cases hread : Toml.read? text.toList with
  | none =>
      rw [parse_of_none hread]
      exact ⟨by simp, by simp⟩
  | some document =>
      have hsound : TableSound document := Toml.tableSound_read? hread
      simp only [Option.some.injEq, exists_eq_left', forall_eq']
      by_cases hfits : Fits document
      · have hjudged : Judged defaults document (parse defaults text) := judged_parse hread hfits
        have hne := hjudged.ne_toml
        refine ⟨?_, hsound, fun _ r => ?_⟩
        · constructor
          · intro h
            obtain ⟨fault, hfault⟩ := h
            exact absurd hfault (hne.2 fault)
          · intro h
            exact absurd hfits h
        · constructor
          · intro h
            exact h ▸ hjudged
          · intro h
            exact judged_unique hsound hjudged h
      · obtain ⟨fault, hfault⟩ := parse_of_not_fits defaults hread hfits
        refine ⟨⟨fun _ => hfits, fun _ => ⟨fault, hfault⟩⟩, hsound, fun h => ?_⟩
        exact absurd h hfits

/-! ### Where the format ends -/

/-- A file is no document of the format from the 80th level of nested arrays on. -/
theorem parse_nested_iff (defaults : Settings) (n : Nat) :
    parse defaults (String.ofList ("k=".toList ++ Toml.brackets (n + 1))) =
      .error (.failed .notToml) ↔ 79 < n + 1 := by
  rw [parse_eq_notToml_iff, String.toList_ofList, ← Option.not_isSome_iff_eq_none,
    Toml.read?_nested_iff]
  omega

/-- The same holds of the steps of a dotted key. -/
theorem parse_dotted_iff (defaults : Settings) (n : Nat) :
    parse defaults (String.ofList (Toml.points n ++ "=1".toList)) =
      .error (.failed .notToml) ↔ 79 < n + 1 := by
  rw [parse_eq_notToml_iff, String.toList_ofList, ← Option.not_isSome_iff_eq_none,
    Toml.read?_dotted_iff]
  omega

/-! ### A file without tables -/

/-- A settings file without a table: its sections are an array and a date. -/
def positional : String :=
  "probe = [true, '999ns', 20000, false, 0]\nlogging = 1979-05-27\n"

def positionalDocument : List (String × Value) :=
  [("probe", .array [.boolean true, .string "999ns", .integer 20000, .boolean false, .integer 0]),
    ("logging", .dateTime "1979-05-27")]

theorem fits_positionalDocument : Fits positionalDocument := by
  have hprobe : SectionForm File.probeFields 4 ProbeField
      (.array [.boolean true, .string "999ns", .integer 20000, .boolean false, .integer 0]) := by
    refine .array (by decide) fun i name v hname hv => ?_
    match i with
    | 0 =>
        cases hname
        cases hv
        exact .exceptionCheck true
    | 1 =>
        cases hname
        cases hv
        exact .threshold "999ns"
    | 2 =>
        cases hname
        cases hv
        exact .iterations (by decide) (by decide)
    | 3 =>
        cases hname
        cases hv
        exact .block false
    | i + 4 => cases hname
  have hlogging : SectionForm File.logFields 0 LogField (.dateTime "1979-05-27") :=
    have hunknown : File.dateTimeKey ∉ File.logFields := by decide
    .dateTime hunknown (.other _ hunknown)
  intro e he
  simp only [positionalDocument, List.mem_cons, List.not_mem_nil, or_false] at he
  rcases he with rfl | rfl
  · exact .probe hprobe
  · exact .logging hlogging

/-- Both its threshold and its number of iterations are out of bounds; the threshold is reported. -/
theorem parse_stages_positional :
    Toml.read? positional.toList = some positionalDocument ∧ Fits positionalDocument ∧
      parse (Build.settings {}) positional =
        .error (.failed (.invalidValue "timing_threshold" "999ns")) := by
  have hread : Toml.read? positional.toList = some positionalDocument := by cbv
  have hfits := fits_positionalDocument
  have hsays : ProbeSays positionalDocument "timing_threshold" (.string "999ns") :=
    ⟨_, List.mem_cons_self, .array (i := 1) rfl rfl⟩
  have hshort : NoThreshold "999ns" (.failed (.invalidValue "timing_threshold" "999ns")) :=
    .tooShort (d := ⟨0, 999, by decide, by decide⟩) rfl rfl
  have hstages := parse_stages (Build.settings {}) positional
  exact ⟨hread, hfits, ((hstages.2.2 _ hread).2 hfits _).2 (.noThreshold hsays hshort)⟩

end ProcessIntegrity.Settings
