import ProcessIntegrity.Proofs.Settings.Form
import ProcessIntegrity.Proofs.Settings.Parse
import ProcessIntegrity.Proofs.Toml.Layout
/-!
# Written settings are read back

A settings file that gives some of its seven values, one a line under the headers of the two
sections, is read as exactly these values, with the defaults for those that it leaves out. That
holds for every layout of the file and every way to escape its strings, of which `Sheet.write` is
one.
-/

namespace ProcessIntegrity.Settings

open Toml (Value Statement Writes CharText ValueText Filler Blanks IsBareKey tableStatements
  blanks_nil isBareKey_of_all)

/-- The values that a settings file gives. Any of them can be left out. -/
structure Sheet where
  probe : ProbeSection := {}
  enabled : Option Bool := none
  file : Option String := none
  level : Option String := none

def given {α : Type} (name : String) (value : α → Value) (field : Option α) :
    List (String × Value) :=
  (field.map fun a => (name, value a)).toList

namespace Sheet

def probeEntries (s : Sheet) : List (String × Value) :=
  given "enable_exception_check" .boolean s.probe.exceptionCheck ++
    given "timing_threshold" .string s.probe.threshold ++
    given "workload_iterations" (fun n : UInt32 => .integer n.toNat) s.probe.iterations ++
    given "block_on_detection" .boolean s.probe.block

def logEntries (s : Sheet) : List (String × Value) :=
  given "enable" .boolean s.enabled ++ given "file" .string s.file ++ given "level" .string s.level

def tables (s : Sheet) : List (String × List (String × Value)) :=
  [("probe", s.probeEntries), ("logging", s.logEntries)]

/-- The text is a settings file of these values, in whatever layout. -/
def IsWritten (s : Sheet) (text : String) : Prop :=
  Writes (s.tables.flatMap tableStatements) text.toList

/-! ### A layout -/

def writeBool (on : Bool) : List Char :=
  (toString on).toList

def writeText (text : String) : List Char :=
  '"' :: text.toList.flatMap Toml.escape ++ ['"']

def header (name : String) : List Char :=
  '[' :: name.toList ++ [']', '\n']

def line (name : String) (value : Option (List Char)) : List Char :=
  value.elim [] fun text => name.toList ++ [' ', '=', ' '] ++ text ++ ['\n']

/-- The values as a text: one a line under their headers, with as few escapes as possible. -/
def write (s : Sheet) : String :=
  String.ofList <|
    header "probe" ++
      line "enable_exception_check" (s.probe.exceptionCheck.map writeBool) ++
      line "timing_threshold" (s.probe.threshold.map writeText) ++
      line "workload_iterations" (s.probe.iterations.map fun n => (toString n).toList) ++
      line "block_on_detection" (s.probe.block.map writeBool) ++
    '\n' :: header "logging" ++
      line "enable" (s.enabled.map writeBool) ++
      line "file" (s.file.map writeText) ++
      line "level" (s.level.map writeText)

def settings (s : Sheet) (threshold : Option Duration) (defaults : Settings) : Settings where
  probe := ⟨s.probe.exceptionCheck.getD defaults.probe.exceptionCheck,
    threshold.getD defaults.probe.threshold, s.probe.iterations.getD defaults.probe.iterations⟩
  block := s.probe.block.getD defaults.block
  logging := ⟨s.enabled.getD false, s.file, s.level.getD "INFO"⟩

end Sheet

/-! ## The document -/

section Given

variable {α τ : Type} {name : String} {value : α → Value}

theorem map_fst_given (field : Option α) :
    ((given name value field).map Prod.fst).Sublist [name] := by
  cases field with
  | none => exact List.nil_sublist _
  | some a => exact List.Sublist.refl _

theorem foldlM_given {set : τ → String × Value → Except FormFault τ} {put : τ → α → τ}
    (hset : ∀ t a, set t (name, value a) = .ok (put t a)) (field : Option α) (t : τ) :
    (given name value field).foldlM set t = .ok (field.elim t (put t)) := by
  cases field with
  | none => rfl
  | some a =>
      rw [given, Option.map_some, Option.toList_some, List.foldlM_cons, hset]
      rfl

end Given

namespace Sheet

variable (s : Sheet)

theorem nodup_probeEntries : (s.probeEntries.map Prod.fst).Nodup := by
  have hsublist : (s.probeEntries.map Prod.fst).Sublist
      (["enable_exception_check"] ++ ["timing_threshold"] ++ ["workload_iterations"] ++
        ["block_on_detection"]) := by
    simp only [probeEntries, List.map_append]
    exact (((map_fst_given _).append (map_fst_given _)).append (map_fst_given _)).append
      (map_fst_given _)
  exact List.Nodup.sublist hsublist (by decide)

theorem nodup_logEntries : (s.logEntries.map Prod.fst).Nodup := by
  have hsublist : (s.logEntries.map Prod.fst).Sublist (["enable"] ++ ["file"] ++ ["level"]) := by
    simp only [logEntries, List.map_append]
    exact ((map_fst_given _).append (map_fst_given _)).append (map_fst_given _)
  exact List.Nodup.sublist hsublist (by decide)

/-- Every layout is the document of the two tables. -/
theorem read?_of_isWritten {text : String} (h : s.IsWritten text) :
    Toml.read? text.toList =
      some [("probe", .table s.probeEntries), ("logging", .table s.logEntries)] := by
  have hnames : (s.tables.map Prod.fst).Nodup := by
    change ["probe", "logging"].Nodup
    decide
  apply Toml.read?_tables hnames ?_ h
  intro t ht
  rcases List.mem_pair.1 ht with rfl | rfl
  · exact s.nodup_probeEntries
  · exact s.nodup_logEntries

theorem foldlM_probeEntries : s.probeEntries.foldlM File.setProbeField {} = .ok s.probe := by
  have hexception (t : ProbeSection) (on : Bool) :=
    setProbeField_eq_ok_iff.2 (TakesProbe.exceptionCheck (s := t) on)
  have hthreshold (t : ProbeSection) (raw : String) :=
    setProbeField_eq_ok_iff.2 (TakesProbe.threshold (s := t) raw)
  have hiterations (t : ProbeSection) (n : UInt32) :=
    setProbeField_eq_ok_iff.2 (TakesProbe.iterations (s := t) n)
  have hblock (t : ProbeSection) (on : Bool) :=
    setProbeField_eq_ok_iff.2 (TakesProbe.block (s := t) on)
  simp only [probeEntries, List.foldlM_append, foldlM_given hexception, foldlM_given hthreshold,
    foldlM_given hiterations, foldlM_given hblock, bind, Except.bind]
  obtain ⟨⟨exceptionCheck, threshold, iterations, block⟩, _, _, _⟩ := s
  cases exceptionCheck <;> cases threshold <;> cases iterations <;> cases block <;> rfl

theorem foldlM_logEntries :
    s.logEntries.foldlM File.setLogField .default =
      .ok ⟨s.enabled.getD false, s.file, s.level.getD "INFO"⟩ := by
  have henable (t : LogSettings) (on : Bool) :=
    setLogField_eq_ok_iff.2 (TakesLog.enable (s := t) on)
  have hfile (t : LogSettings) (path : String) :=
    setLogField_eq_ok_iff.2 (TakesLog.file (s := t) path)
  have hlevel (t : LogSettings) (name : String) :=
    setLogField_eq_ok_iff.2 (TakesLog.level (s := t) name)
  simp only [logEntries, List.foldlM_append, foldlM_given henable, foldlM_given hfile,
    foldlM_given hlevel, bind, Except.bind]
  obtain ⟨_, enabled, file, level⟩ := s
  cases enabled <;> cases file <;> cases level <;> rfl

theorem ofDocument_tables :
    File.ofDocument [("probe", .table s.probeEntries), ("logging", .table s.logEntries)] =
      .ok ⟨s.probe, ⟨s.enabled.getD false, s.file, s.level.getD "INFO"⟩⟩ := by
  have hprobe : File.probeSection (.table s.probeEntries) = .ok s.probe :=
    probeSection_eq_ok_iff.2 ⟨_, rfl, s.foldlM_probeEntries, by simp⟩
  have hlogging : File.logSection (.table s.logEntries) =
      .ok ⟨s.enabled.getD false, s.file, s.level.getD "INFO"⟩ :=
    logSection_eq_ok_iff.2 ⟨_, rfl, s.foldlM_logEntries⟩
  have hfirst (f : File) := setSection_eq_ok_iff.2 (TakesSection.probe (f := f) hprobe)
  have hsecond (f : File) := setSection_eq_ok_iff.2 (TakesSection.logging (f := f) hlogging)
  simp only [File.ofDocument, List.foldlM_cons, List.foldlM_nil, hfirst, hsecond, bind, Except.bind]
  rfl

/-- A file of values that are in order comes to these values. -/
theorem parse_of_isWritten {text : String} (h : s.IsWritten text) {threshold : Option Duration}
    (hthreshold : s.probe.threshold.map readThreshold = threshold.map .ok)
    (hiterations : ∀ n, s.probe.iterations = some n → ¬ OutOfBounds n) (defaults : Settings) :
    parse defaults text = .ok (s.settings threshold defaults) := by
  rw [parse_of_ofDocument (s.read?_of_isWritten h) s.ofDocument_tables,
    change_changes_of_fine hthreshold hiterations]
  rfl

/-! ## The layout of `write` -/

theorem writes_header {name : String} (hname : IsBareKey name) {later : List Statement}
    {rest : List Char} (h : Writes later rest) :
    Writes (.table [name] :: later) (header name ++ rest) := by
  have hline := Writes.line blanks_nil (.table hname blanks_nil blanks_nil)
    (.lineFeed (.blanks blanks_nil)) h
  simpa [header] using hline

theorem writes_line {α : Type} {name : String} {value : α → Value} {chars : α → List Char}
    (hname : IsBareKey name) (hvalue : ∀ a, ValueText (value a) (chars a)) (field : Option α)
    {later : List Statement} {rest : List Char} (h : Writes later rest) :
    Writes ((given name value field).map (fun p => .pair [] p.1 p.2) ++ later)
      (line name (field.map chars) ++ rest) := by
  cases field with
  | none => exact h
  | some a =>
      have hspace : Blanks [' '] := by simp [Blanks, Toml.isBlank]
      have hline := Writes.line blanks_nil (.pair hname hspace hspace (hvalue a))
        (.lineFeed (.blanks blanks_nil)) h
      simpa [given, line] using hline

theorem valueText_writeBool (on : Bool) : ValueText (.boolean on) (writeBool on) :=
  .boolean on

theorem valueText_writeText (text : String) : ValueText (.string text) (writeText text) :=
  .string (Toml.stringText_escape text.toList)

theorem valueText_count (n : UInt32) : ValueText (.integer n.toNat) (toString n).toList :=
  .integer (Nat.lt_trans n.toNat_lt (by decide))

theorem isWritten_write (s : Sheet) : s.IsWritten s.write := by
  -- From the last line to the first.
  have hlogging := writes_header (isBareKey_of_all "logging" (by decide)) <|
    writes_line (isBareKey_of_all "enable" (by decide)) valueText_writeBool s.enabled <|
    writes_line (isBareKey_of_all "file" (by decide)) valueText_writeText s.file <|
    writes_line (isBareKey_of_all "level" (by decide)) valueText_writeText s.level .nothing
  have hprobe := writes_header (isBareKey_of_all "probe" (by decide)) <|
    writes_line (isBareKey_of_all "enable_exception_check" (by decide)) valueText_writeBool
      s.probe.exceptionCheck <|
    writes_line (isBareKey_of_all "timing_threshold" (by decide)) valueText_writeText
      s.probe.threshold <|
    writes_line (isBareKey_of_all "workload_iterations" (by decide)) valueText_count
      s.probe.iterations <|
    writes_line (isBareKey_of_all "block_on_detection" (by decide)) valueText_writeBool
      s.probe.block <|
    .silent (.lineFeed (.blanks blanks_nil)) hlogging
  rw [IsWritten, write, String.toList_ofList]
  simpa [tables, tableStatements, probeEntries, logEntries] using hprobe

end Sheet

/-- Settings that are written in a file are read back from it, however they are written: what the
file gives is taken over as it is, a threshold as the duration that its text stands for, and what it
leaves out has its default. -/
theorem parse_written (b : Build) (s : Sheet) (threshold : Option Duration)
    (hthreshold : s.probe.threshold.map readThreshold = threshold.map .ok)
    (hiterations : ∀ n, s.probe.iterations = some n → 1 ≤ n.toNat ∧ n.toNat ≤ 10000) :
    s.IsWritten s.write ∧
      ∀ text, s.IsWritten text → parse b.settings text = .ok (s.settings threshold b.settings) := by
  refine ⟨Sheet.isWritten_write s, fun text h => ?_⟩
  apply s.parse_of_isWritten h hthreshold
  intro n hn hbounds
  obtain ⟨hpos, hle⟩ := hiterations n hn
  rcases hbounds with rfl | hlt
  · exact absurd hpos (by decide)
  · have hmax : maxIterations.toNat = 10000 := rfl
    have hlt := UInt32.lt_iff_toNat_lt.1 hlt
    omega

/-- A few values with comments between them, an escape that nobody needs, and no last line end. -/
def annotated : String :=
  "# Limits\r\n[probe]\ntiming_threshold = \"2\\u006ds\" # short\n\tworkload_iterations=3\n\n" ++
    "[ logging ]\nfile = \"C:\\\\log\""

def annotatedSheet : Sheet where
  probe := { threshold := some "2ms", iterations := some 3 }
  file := some "C:\\log"

theorem isWritten_annotated : annotatedSheet.IsWritten annotated := by
  have hspace : Blanks [' '] := by simp [Blanks, Toml.isBlank]
  have htab : Blanks ['\t'] := by simp [Blanks, Toml.isBlank]
  have hlimits : Filler ([] ++ '#' :: " Limits".toList) :=
    .comment blanks_nil (List.all_eq_true.1 rfl)
  have hshort : Filler ([' '] ++ '#' :: " short".toList) := .comment hspace (List.all_eq_true.1 rfl)
  have hm : CharText 'm' ('\\' :: 'u' :: "006d".toList) := .short rfl ⟨List.all_eq_true.1 rfl, rfl⟩
  have hthreshold : ValueText (.string "2ms") ('"' :: "2\\u006ds".toList ++ ['"']) :=
    .string (.cons (Toml.charText_escape '2') (.cons hm (.cons (Toml.charText_escape 's') .nil)))
  have hfile := Sheet.valueText_writeText "C:\\log"
  have hwrites := Writes.silent (.returned hlimits) <|
    .line blanks_nil (.table (isBareKey_of_all "probe" (by decide)) blanks_nil blanks_nil)
      (.lineFeed (.blanks blanks_nil)) <|
    .line blanks_nil (.pair (isBareKey_of_all "timing_threshold" (by decide)) hspace hspace
      hthreshold) (.lineFeed hshort) <|
    .line htab (.pair (isBareKey_of_all "workload_iterations" (by decide)) blanks_nil blanks_nil
      (Sheet.valueText_count 3)) (.lineFeed (.blanks blanks_nil)) <|
    .silent (.lineFeed (.blanks blanks_nil)) <|
    .line blanks_nil (.table (isBareKey_of_all "logging" (by decide)) hspace hspace)
      (.lineFeed (.blanks blanks_nil)) <|
    .line blanks_nil (.pair (isBareKey_of_all "file" (by decide)) hspace hspace hfile)
      (.last (.blanks blanks_nil)) .nothing
  exact hwrites

theorem parse_written_annotated :
    annotatedSheet.IsWritten annotated ∧
      parse (Build.settings {}) annotated =
        .ok ⟨⟨false, ⟨0, 2000000, by decide, by decide⟩, 3⟩, true,
          ⟨false, some "C:\\log", "INFO"⟩⟩ := by
  have hread : Duration.read (Text.trim "2ms".toList) = .ok ⟨0, 2000000, by decide, by decide⟩ := by
    decide +kernel
  have hthreshold := readThreshold_eq_ok_iff.2 ⟨hread, by decide⟩
  have hiterations : ∀ n, annotatedSheet.probe.iterations = some n →
      1 ≤ n.toNat ∧ n.toNat ≤ 10000 := by
    intro n hn
    cases hn
    decide
  obtain ⟨-, hparse⟩ :=
    parse_written {} annotatedSheet (some _) (congrArg some hthreshold) hiterations
  exact ⟨isWritten_annotated, hparse annotated isWritten_annotated⟩

end ProcessIntegrity.Settings
