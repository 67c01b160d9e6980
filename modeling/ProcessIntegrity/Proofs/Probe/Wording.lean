import Mathlib.Data.List.Basic
import ProcessIntegrity.Probe.Enforcement
import ProcessIntegrity.Proofs.Probe.FirstMatch
/-!
# The wording of the log

What is logged of a check, word for word. The names of the detectors, the labels and codes of the
verdicts and the texts of the errors are spelled out once more, so that the records say what they
say and not what the program happens to call things. These are the records that a detector writes
(`evaluate_eq`). The record of a detector that cannot tell says which detector that was and why
(`inconclusiveRecord_eq_iff`).
-/

namespace ProcessIntegrity

/-! ## Detectors -/

def triggeredRecord (d : Detector) : Log.Record :=
  ⟨.warn, .prober,
    match d with
    | .debuggerFlag => "debugger_flag triggered → Basic Debugger (PEB Flag) (101)"
    | .remoteDebugger => "remote_debugger triggered → Remote Debugger (Debug Port) (102)"
    | .timingAnomaly => "timing_anomaly triggered → Timing Anomaly (Single-Step Latency) (105)"
    | .exceptionInterception =>
      "exception_interception triggered → Exception Interception (106)"⟩

def quoting (probe rest : String) : String :=
  "probe '" ++ (probe ++ ("'" ++ rest))

def ProbeError.words : ProbeError → String
  | .unsupported probe => quoting probe " is not supported on this platform"
  | .queryFailed probe cause => quoting probe (" query failed: " ++ cause.message)
  | .timerUnavailable => "high-resolution counter unavailable"

def inconclusiveRecord (d : Detector) (e : ProbeError) : Log.Record :=
  ⟨.debug, .prober,
    match d with
    | .debuggerFlag => "debugger_flag inconclusive, treating as clean: " ++ e.words
    | .remoteDebugger => "remote_debugger inconclusive, treating as clean: " ++ e.words
    | .timingAnomaly => "timing_anomaly inconclusive, treating as clean: " ++ e.words
    | .exceptionInterception =>
      "exception_interception inconclusive, treating as clean: " ++ e.words⟩

def sampleRecord (s : ProbeSettings) (m : Timing.Sample) : Log.Record :=
  let elapsed := (m.stop.toNat - m.start.toNat) * 1000000 / m.frequency.toNat
  let threshold := s.threshold.toNanos / 1000
  ⟨.trace, .timing, s!"elapsed={elapsed}us threshold={threshold}us"⟩

theorem message_eq_words (e : ProbeError) : e.message = e.words := by
  cases e with
  | unsupported probe | queryFailed probe cause =>
      simp only [ProbeError.message, ProbeError.words, quoting, String.append_assoc]
      rfl
  | timerUnavailable => rfl

theorem triggeredRecord_eq (d : Detector) :
    triggeredRecord d = ⟨.warn, .prober, s!"{d.name} triggered → {d.verdict.render}"⟩ := by
  cases d <;> rfl

theorem inconclusiveRecord_eq (d : Detector) (e : ProbeError) :
    inconclusiveRecord d e =
      ⟨.debug, .prober, s!"{d.name} inconclusive, treating as clean: {e.message}"⟩ := by
  rw [message_eq_words]
  cases d <;> rfl

theorem sampleRecord_eq (s : ProbeSettings) {m : Timing.Sample} (h : m.frequency ≠ 0) :
    sampleRecord s m =
      ⟨.trace, .timing, s!"elapsed={m.elapsedMicros}us threshold={s.thresholdMicros}us"⟩ := by
  have hthreshold : s.thresholdMicros = s.threshold.toNanos / 1000 := s.threshold.wholeMicros_eq
  rw [m.elapsedMicros_of_frequency h, hthreshold]
  rfl

/-- A detector that is tried writes of what it finds, if it writes at all. -/
theorem evaluate_eq (s : ProbeSettings) (d : Detector) :
    d.evaluate s = d.inquire s >>= fun
      | .ok true => .note (triggeredRecord d) (pure true)
      | .ok false => pure false
      | .error e => .note (inconclusiveRecord d e) (pure false) := by
  unfold Detector.evaluate
  congr 1
  funext finding
  match finding with
  | .ok true => exact congrArg (Inquiry.note · (pure true)) (triggeredRecord_eq d).symm
  | .ok false => rfl
  | .error e => exact congrArg (Inquiry.note · (pure false)) (inconclusiveRecord_eq d e).symm

/-! ### What an inconclusive record tells -/

/-- The quotes around the name of the probe are the first ones in the text. -/
def ProbeError.Quotable : ProbeError → Prop
  | .unsupported probe | .queryFailed probe _ => '\x27' ∉ probe.toList
  | .timerUnavailable => True

instance : (e : ProbeError) → Decidable e.Quotable
  | .unsupported probe | .queryFailed probe _ => inferInstanceAs (Decidable ('\x27' ∉ probe.toList))
  | .timerUnavailable => inferInstanceAs (Decidable True)

/-- Two errors of one kind and of one probe, with causes that say the same. -/
inductive ProbeError.ReadsAs : ProbeError → ProbeError → Prop
  | unsupported (probe : String) : ReadsAs (.unsupported probe) (.unsupported probe)
  | queryFailed (probe : String) {cause cause' : IoFailure} : cause.message = cause'.message →
      ReadsAs (.queryFailed probe cause) (.queryFailed probe cause')
  | timerUnavailable : ReadsAs .timerUnavailable .timerUnavailable

theorem eq_nil_of_cut {c : Char} {between u v : List Char} (hc : c ∉ between)
    (h : c :: u = between ++ c :: v) : between = [] := by
  cases between with
  | nil => rfl
  | cons d between =>
      obtain ⟨rfl, _⟩ := List.cons.inj h
      exact absurd List.mem_cons_self hc

/-- Two texts are cut at the first place of a character in both. -/
theorem cut_inj {c : Char} {p q u v : List Char} (hp : c ∉ p) (hq : c ∉ q)
    (h : p ++ c :: u = q ++ c :: v) : p = q ∧ u = v := by
  rcases List.append_eq_append_iff.1 h with ⟨between, rfl, hu⟩ | ⟨between, rfl, hv⟩
  · obtain rfl := eq_nil_of_cut (fun hmem => hq (List.mem_append_right _ hmem)) hu
    simpa using hu
  · obtain rfl := eq_nil_of_cut (fun hmem => hp (List.mem_append_right _ hmem)) hv
    simpa [eq_comm] using hv

theorem quoting_inj {p q u v : String} (hp : '\x27' ∉ p.toList) (hq : '\x27' ∉ q.toList)
    (h : quoting p u = quoting q v) : p = q ∧ u = v := by
  have hlists := congrArg String.toList h
  simp only [quoting, String.toList_append] at hlists
  obtain ⟨hname, hrest⟩ := cut_inj hp hq (List.append_cancel_left hlists)
  exact ⟨String.toList_inj.1 hname, String.toList_inj.1 hrest⟩

/-- An error whose probe is quotable can be read off its text. -/
theorem words_eq_iff {e e' : ProbeError} (h : e.Quotable) (h' : e'.Quotable) :
    e.words = e'.words ↔ e.ReadsAs e' := by
  constructor
  · intro heq
    match e, e' with
    | .unsupported p, .unsupported q =>
        obtain ⟨rfl, _⟩ := quoting_inj h h' heq
        exact .unsupported p
    | .queryFailed p cause, .queryFailed q cause' =>
        obtain ⟨rfl, hcause⟩ := quoting_inj h h' heq
        exact .queryFailed p (by simpa using hcause)
    | .timerUnavailable, .timerUnavailable => exact .timerUnavailable
    -- Two kinds of errors differ in what follows the name, or in how they begin.
    | .unsupported p, .queryFailed q cause | .queryFailed q cause, .unsupported p =>
        obtain ⟨_, hrest⟩ := quoting_inj h h' heq
        simpa using congrArg String.toList hrest
    | .timerUnavailable, .unsupported p | .timerUnavailable, .queryFailed p _
    | .unsupported p, .timerUnavailable | .queryFailed p _, .timerUnavailable =>
        simpa [ProbeError.words, quoting] using congrArg String.toList heq
  · intro hreads
    cases hreads with
    | unsupported probe => rfl
    | queryFailed probe hcause => rw [ProbeError.words, ProbeError.words, hcause]
    | timerUnavailable => rfl

theorem inconclusiveRecord_inj {d d' : Detector} {e e' : ProbeError}
    (h : inconclusiveRecord d e = inconclusiveRecord d' e') : d = d' ∧ e.words = e'.words := by
  have htext := congrArg (fun r : Log.Record => r.message.toList) h
  revert htext
  cases d <;> cases d' <;> simp [inconclusiveRecord, String.toList_append, String.toList_inj]

/-- An inconclusive record tells the detector and the error. -/
theorem inconclusiveRecord_eq_iff {d d' : Detector} {e e' : ProbeError} (h : e.Quotable)
    (h' : e'.Quotable) :
    inconclusiveRecord d e = inconclusiveRecord d' e' ↔ d = d' ∧ e.ReadsAs e' := by
  rw [← words_eq_iff h h']
  constructor
  · exact inconclusiveRecord_inj
  · rintro ⟨rfl, hwords⟩
    cases d <;> rw [inconclusiveRecord, inconclusiveRecord, hwords]

/-! ## Verdicts -/

def openingRecord : Log.Record :=
  ⟨.info, .integrity, "Checking process integrity..."⟩

def verdictRecord : Verdict → Log.Record
  | .clean => ⟨.info, .integrity, "Environment clean. No debuggers detected."⟩
  | .debuggerFlag =>
    ⟨.error, .integrity, "Integrity violation! Threat: 101 - Basic Debugger (PEB Flag)"⟩
  | .remoteDebugger =>
    ⟨.error, .integrity, "Integrity violation! Threat: 102 - Remote Debugger (Debug Port)"⟩
  | .timingAnomaly =>
    ⟨.error, .integrity, "Integrity violation! Threat: 105 - Timing Anomaly (Single-Step Latency)"⟩
  | .exceptionIntercepted =>
    ⟨.error, .integrity, "Integrity violation! Threat: 106 - Exception Interception"⟩

def auditRecords : Outcome Verdict → List Log.Record
  | .finished .debuggerFlag =>
    [⟨.warn, .integrity, "Audit mode: continuing despite Basic Debugger (PEB Flag) (101)"⟩]
  | .finished .remoteDebugger =>
    [⟨.warn, .integrity, "Audit mode: continuing despite Remote Debugger (Debug Port) (102)"⟩]
  | .finished .timingAnomaly =>
    [⟨.warn, .integrity,
      "Audit mode: continuing despite Timing Anomaly (Single-Step Latency) (105)"⟩]
  | .finished .exceptionIntercepted =>
    [⟨.warn, .integrity, "Audit mode: continuing despite Exception Interception (106)"⟩]
  | .finished .clean | .crashed _ => []

/-- The records behind a check that ended like this. Nothing is written behind a crash. -/
def Enforcement.closing : Enforcement → Outcome Verdict → List Log.Record
  | _, .crashed _ => []
  | .block, .finished v => [verdictRecord v]
  | .audit, .finished v => verdictRecord v :: auditRecords (.finished v)

theorem closing_audit (o : Outcome Verdict) :
    Enforcement.audit.closing o = Enforcement.block.closing o ++ auditRecords o := by
  cases o with
  | finished v => rfl
  | crashed message => rfl

end ProcessIntegrity
