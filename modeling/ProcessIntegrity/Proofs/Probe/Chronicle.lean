import ProcessIntegrity.Proofs.Probe.Enforcement
import ProcessIntegrity.Proofs.Probe.FailOpen
/-!
# The log of an enforced check

What a check writes is fixed by what it asked and was told. `Finding` says what one detector comes
to and with which sample, `Chronicle` puts the questions and records of the detectors in order, and
an enforced check writes nothing else but the records around it. The limit of a logger decides which
of these records are written and has no part in anything else (`log_tells_all`).
-/

namespace ProcessIntegrity

variable {σ α β : Type}

/-! ## A logger with a limit -/

/-- The levels up to a limit. -/
def Log.Limit.levels : Log.Limit → List Log.Level
  | none => []
  | some .error => [.error]
  | some .warn => [.error, .warn]
  | some .info => [.error, .warn, .info]
  | some .debug => [.error, .warn, .info, .debug]
  | some .trace => [.error, .warn, .info, .debug, .trace]

theorem Log.Limit.keeps_iff (limit : Log.Limit) (level : Log.Level) :
    limit.keeps level = true ↔ level ∈ limit.levels := by
  cases limit with
  | none => cases level <;> decide
  | some least => cases least <;> cases level <;> decide

namespace Inquiry

/-- Follows an inquiry with a host and with a logger that writes the records up to a limit and
passes over the others. -/
def runLogged (limit : Log.Limit) (host : Host σ) : Inquiry α → σ → Run σ α
  | done a, s => ⟨.finished a, s, []⟩
  | note r next, s =>
    if limit.keeps r.level then (runLogged limit host next s).after (.noted r)
    else runLogged limit host next s
  | ask q next, s =>
    match host.reply q s with
    | (.finished answer, s) =>
      (runLogged limit host (next answer) s).after (.asked q (.finished answer))
    | (.crashed message, s) => ⟨.crashed message, s, [.asked q (.crashed message)]⟩

/-- Questions are asked under every limit; a record is written when the limit keeps it. -/
def Event.passes (limit : Log.Limit) : Event → Bool
  | .asked .. => true
  | .noted r => limit.keeps r.level

theorem filter_asked (limit : Log.Limit) (q : Query) (reply : Outcome q.Answer) (es : List Event) :
    (Event.asked q reply :: es).filter (Event.passes limit) =
      .asked q reply :: es.filter (Event.passes limit) := rfl

theorem filter_noted (limit : Log.Limit) (r : Log.Record) (es : List Event) :
    (Event.noted r :: es).filter (Event.passes limit) =
      if limit.keeps r.level then .noted r :: es.filter (Event.passes limit)
      else es.filter (Event.passes limit) :=
  List.filter_cons

def Run.kept (limit : Log.Limit) (r : Run σ α) : Run σ α :=
  { r with events := r.events.filter (Event.passes limit) }

theorem Run.kept_after_noted (limit : Log.Limit) (record : Log.Record) (r : Run σ α) :
    (r.after (.noted record)).kept limit =
      if limit.keeps record.level then (r.kept limit).after (.noted record) else r.kept limit := by
  simp only [Run.kept, Run.after, filter_noted]
  split
  · rfl
  · rfl

/-- A limit leaves of a run what it keeps of the records, and all the rest. -/
theorem runLogged_eq (limit : Log.Limit) (host : Host σ) (x : Inquiry α) (s : σ) :
    runLogged limit host x s = (run host x s).kept limit := by
  induction x generalizing s with
  | done a => rfl
  | note r next ih => rw [runLogged, run, ih, Run.kept_after_noted]
  | ask q next ih =>
      rw [runLogged, run]
      rcases host.reply q s with ⟨reply, s'⟩
      cases reply with
      | finished answer => exact congrArg (Run.after (.asked q (.finished answer))) (ih answer s')
      | crashed message => rfl

theorem exchanges_filter (limit : Log.Limit) (es : List Event) :
    exchanges (es.filter (Event.passes limit)) = exchanges es := by
  induction es with
  | nil => rfl
  | cons e es ih =>
      cases e with
      | asked q reply => rw [filter_asked, exchanges_asked, exchanges_asked, ih]
      | noted r =>
          rw [filter_noted, exchanges_noted]
          split
          · rw [exchanges_noted, ih]
          · exact ih

theorem recordsIn_filter (limit : Log.Limit) (es : List Event) :
    recordsIn (es.filter (Event.passes limit)) = Log.kept limit (recordsIn es) := by
  induction es with
  | nil => rfl
  | cons e es ih =>
      cases e with
      | asked q reply => rw [filter_asked, recordsIn_asked, recordsIn_asked, ih]
      | noted r =>
          rw [filter_noted, recordsIn_noted, Log.kept, List.filter_cons]
          split
          · rw [recordsIn_noted, ih]
            rfl
          · exact ih

theorem runLogged_trace (host : Host σ) (x : Inquiry α) (s : σ) :
    runLogged (some .trace) host x s = run host x s := by
  have hall : (run host x s).events.filter (Event.passes (some .trace)) =
      (run host x s).events := by
    apply List.filter_eq_self.2
    intro e _
    cases e with
    | asked q reply => rfl
    | noted r => cases r with | mk level _ _ => cases level <;> rfl
  rw [runLogged_eq, Run.kept, hall]

/-! ## Inquiries that write nothing -/

inductive Silent : Inquiry α → Prop
  | done (a : α) : Silent (done a)
  | ask {q : Query} {next : q.Answer → Inquiry α} :
      (∀ answer, Silent (next answer)) → Silent (ask q next)

def Event.ofExchange (e : Exchange) : Event :=
  .asked e.1 e.2

theorem events_of_silent {x : Inquiry α} (h : Silent x) (host : Host σ) (s : σ) :
    (run host x s).events = (run host x s).questions.map Event.ofExchange := by
  induction h generalizing s with
  | done a => rfl
  | @ask q next _ ih =>
      rw [run]
      rcases host.reply q s with ⟨reply, s'⟩
      cases reply with
      | finished answer => exact congrArg (Event.asked q (.finished answer) :: ·) (ih answer s')
      | crashed message => rfl

theorem run_question (host : Host σ) (q : Query) (s : σ) :
    run host (question q) s =
      ⟨(host.reply q s).1, (host.reply q s).2, [.asked q (host.reply q s).1]⟩ := by
  rw [question, run]
  rcases host.reply q s with ⟨reply, s'⟩
  cases reply with
  | finished answer => rfl
  | crashed message => rfl

theorem silent_question_bind {q : Query} {f : q.Answer → Inquiry α}
    (h : ∀ answer, Silent (f answer)) : Silent (question q >>= f) :=
  .ask h

/-- A silent inquiry leaves nothing but its questions before what follows it. -/
theorem run_silent_bind {x : Inquiry α} (h : Silent x) (host : Host σ) (f : α → Inquiry β)
    (s : σ) :
    run host (x >>= f) s =
      (⟨(run host x s).outcome, (run host x s).state,
        (run host x s).questions.map Event.ofExchange⟩ : Run σ α).andThen
          fun a => run host (f a) := by
  rw [run_bind, ← events_of_silent h]

end Inquiry

/-! ## What detectors write -/

def Detector.findingRecords (d : Detector) : Outcome (Except ProbeError Bool) → List Log.Record
  | .finished (.ok true) => [triggeredRecord d]
  | .finished (.ok false) => []
  | .finished (.error e) => [inconclusiveRecord d e]
  | .crashed _ => []

/-- The questions of a detector with their replies, the sample if it completed a measurement, and
what it finds. -/
inductive Finding (s : ProbeSettings) :
    Detector → List Exchange → Option Timing.Sample → Outcome (Except ProbeError Bool) → Prop
  | debuggerFlag (reply : Outcome (Except ProbeError Bool)) :
      Finding s .debuggerFlag [⟨.debuggerFlag, reply⟩] none reply
  | remoteDebugger (reply : Outcome (Except ProbeError Bool)) :
      Finding s .remoteDebugger [⟨.remoteDebugger, reply⟩] none reply
  | measured {t : List Exchange} {m : Timing.Sample} :
      Measured s.iterations t (.finished (.ok m)) →
      Finding s .timingAnomaly t (some m) (.finished (.ok (anomalous s (.ok m))))
  | unmeasured {t : List Exchange} {e : ProbeError} :
      Measured s.iterations t (.finished (.error e)) →
      Finding s .timingAnomaly t none (.finished (.error e))
  | broken {t : List Exchange} {message : String} :
      Measured s.iterations t (.crashed message) →
      Finding s .timingAnomaly t none (.crashed message)
  | exceptionInterception (reply : Outcome (Except ProbeError ExceptionOutcome)) :
      Finding s .exceptionInterception [⟨.raiseException, reply⟩] none
        (reply.map (Except.map (· == ExceptionOutcome.intercepted)))

open Inquiry (Event)

/-- The events of a detector: its questions, then the record of its sample, then the record of what
it finds. -/
def entry (s : ProbeSettings) (d : Detector) (t : List Exchange) (m : Option Timing.Sample)
    (o : Outcome (Except ProbeError Bool)) : List Event :=
  t.map Event.ofExchange ++ (m.toList.map (sampleRecord s) ++ d.findingRecords o).map .noted

/-- The events of detectors that are tried in order until one triggers. -/
inductive Chronicle (s : ProbeSettings) : List Detector → List Event → Outcome Verdict → Prop
  | none : Chronicle s [] [] (.finished .clean)
  | triggers {d : Detector} {later : List Detector} {t : List Exchange}
      {m : Option Timing.Sample} :
      Finding s d t m (.finished (.ok true)) →
      Chronicle s (d :: later) (entry s d t m (.finished (.ok true))) (.finished d.verdict)
  | passes {d : Detector} {later : List Detector} {t : List Exchange} {m : Option Timing.Sample}
      {finding : Except ProbeError Bool} {es : List Event} {o : Outcome Verdict} :
      Finding s d t m (.finished finding) → affirmed finding = false → Chronicle s later es o →
      Chronicle s (d :: later) (entry s d t m (.finished finding) ++ es) o
  | crashes {d : Detector} {later : List Detector} {t : List Exchange}
      {m : Option Timing.Sample} {message : String} :
      Finding s d t m (.crashed message) →
      Chronicle s (d :: later) (entry s d t m (.crashed message)) (.crashed message)

/-! ## The events of one detector -/

theorem silent_measure (iterations : UInt32) : Inquiry.Silent (Timing.measure iterations) := by
  apply measure_induction
  · exact .done _
  · exact fun m => .done _
  · intro q f _ hf
    exact Inquiry.silent_question_bind hf

def Inquires (s : ProbeSettings) (d : Detector) (r : Inquiry.Run σ (Except ProbeError Bool)) :
    Prop :=
  ∃ t m, Finding s d t m r.outcome ∧
    r.events = t.map Event.ofExchange ++ (m.toList.map (sampleRecord s)).map .noted

theorem inquires_detect (host : Host σ) (s : ProbeSettings) (here : σ) :
    Inquires s .timingAnomaly (Inquiry.run host (Timing.detect s) here) := by
  have hmeasured := allows_measure_iff.1
    (Inquiry.replies_allows_run host (Timing.measure s.iterations) here).2
  unfold Timing.detect
  rw [Inquiry.run_silent_bind (silent_measure s.iterations)]
  generalize (Inquiry.run host (Timing.measure s.iterations) here).questions = t at hmeasured ⊢
  generalize (Inquiry.run host (Timing.measure s.iterations) here).outcome = o at hmeasured ⊢
  match o with
  | .finished (.ok m) =>
      have hfrequency : m.frequency ≠ 0 := frequency_ne_zero hmeasured rfl
      have hexceeds : m.exceeds s.thresholdMicros = anomalous s (.ok m) :=
        exceeds_eq_anomalous hfrequency
      refine ⟨t, some m, ?_, ?_⟩
      · change Finding s .timingAnomaly t (some m) (.finished (.ok (m.exceeds s.thresholdMicros)))
        rw [hexceeds]
        exact .measured hmeasured
      · rw [Option.toList_some, List.map_singleton, sampleRecord_eq s hfrequency]
        rfl
  | .finished (.error e) => exact ⟨t, none, .unmeasured hmeasured, rfl⟩
  | .crashed message =>
      exact ⟨t, none, .broken hmeasured, (List.append_nil _).symm⟩

theorem inquires_inquire (host : Host σ) (s : ProbeSettings) (d : Detector) (here : σ) :
    Inquires s d (Inquiry.run host (d.inquire s) here) := by
  cases d with
  | debuggerFlag =>
      rw [Detector.inquire, Inquiry.run_question]
      exact ⟨_, none, .debuggerFlag _, rfl⟩
  | remoteDebugger =>
      rw [Detector.inquire, Inquiry.run_question]
      exact ⟨_, none, .remoteDebugger _, rfl⟩
  | timingAnomaly => exact inquires_detect host s here
  | exceptionInterception =>
      rw [Detector.inquire, Inquiry.run_bind, Inquiry.run_question]
      rcases host.reply .raiseException here with ⟨reply, there⟩
      cases reply with
      | finished answer => exact ⟨_, none, .exceptionInterception (.finished answer), rfl⟩
      | crashed message => exact ⟨_, none, .exceptionInterception (.crashed message), rfl⟩

theorem run_evaluate (host : Host σ) (s : ProbeSettings) (d : Detector) (here : σ) :
    ∃ t m o there, Finding s d t m o ∧
      Inquiry.run host (d.evaluate s) here = ⟨o.map affirmed, there, entry s d t m o⟩ := by
  obtain ⟨t, m, hfinding, hevents⟩ := inquires_inquire host s d here
  rw [evaluate_eq, Inquiry.run_bind]
  generalize Inquiry.run host (d.inquire s) here = r at hfinding hevents ⊢
  obtain ⟨o, there, events⟩ := r
  have hentry : events ++ (d.findingRecords o).map .noted = entry s d t m o := by
    rw [entry, List.map_append, ← List.append_assoc, ← hevents]
  refine ⟨t, m, o, there, hfinding, ?_⟩
  rw [← hentry]
  match o with
  | .finished (.ok true) => rfl
  | .finished (.ok false) => rfl
  | .finished (.error e) => rfl
  | .crashed message => simp [Inquiry.Run.andThen, Detector.findingRecords]

/-! ## The events of a check -/

theorem chronicle_firstTriggered (host : Host σ) (s : ProbeSettings) (ds : List Detector)
    (here : σ) :
    Chronicle s ds (Inquiry.run host (firstTriggered s ds) here).events
      (Inquiry.run host (firstTriggered s ds) here).outcome := by
  induction ds generalizing here with
  | nil => exact .none
  | cons d later ih =>
      obtain ⟨t, m, o, there, hfinding, hrun⟩ := run_evaluate host s d here
      have hlater := ih there
      rw [firstTriggered, Inquiry.run_bind, hrun]
      cases o with
      | crashed message => exact .crashes hfinding
      | finished finding =>
          cases finding with
          | error e => exact .passes hfinding rfl hlater
          | ok triggered =>
              cases triggered with
              | false => exact .passes hfinding rfl hlater
              | true =>
                  change Chronicle s (d :: later) (entry s d t m (.finished (.ok true)) ++ []) _
                  rw [List.append_nil]
                  exact .triggers hfinding

theorem chronicle_check (host : Host σ) (s : ProbeSettings) (start : σ) :
    Chronicle s (activeDetectors s) (Inquiry.run host (check s) start).events
      (Inquiry.run host (check s) start).outcome := by
  rw [← sequence_eq_activeDetectors]
  exact chronicle_firstTriggered host s _ start

/-! ## Reading the verdict off the log -/

theorem triggeredRecord_injective {d e : Detector} (h : triggeredRecord d = triggeredRecord e) :
    d = e := by
  revert h
  cases d <;> cases e <;> decide +kernel

theorem recordsIn_entry (s : ProbeSettings) (d : Detector) (t : List Exchange)
    (m : Option Timing.Sample) (o : Outcome (Except ProbeError Bool)) :
    Inquiry.recordsIn (entry s d t m o) = m.toList.map (sampleRecord s) ++ d.findingRecords o := by
  have hquestions : Inquiry.recordsIn (t.map Event.ofExchange) = [] := by
    induction t with
    | nil => rfl
    | cons e t ih => exact ih
  rw [entry, Inquiry.recordsIn_append, hquestions, Inquiry.recordsIn_map_noted, List.nil_append]

/-- Among the records of a detector, a warning is its own and says that it triggers. -/
theorem triggeredRecord_mem_entry_iff {s : ProbeSettings} {d e : Detector} {t : List Exchange}
    {m : Option Timing.Sample} {o : Outcome (Except ProbeError Bool)} :
    triggeredRecord d ∈ Inquiry.recordsIn (entry s e t m o) ↔ d = e ∧ o = .finished (.ok true) := by
  have hsample : triggeredRecord d ∉ m.toList.map (sampleRecord s) := by
    simp [triggeredRecord, sampleRecord]
  rw [recordsIn_entry, List.mem_append, or_iff_right hsample]
  match o with
  | .finished (.ok true) =>
      simp only [Detector.findingRecords, List.mem_singleton, and_true]
      exact ⟨triggeredRecord_injective, congrArg triggeredRecord⟩
  | .finished (.ok false) => simp [Detector.findingRecords]
  | .finished (.error e) =>
      simp [Detector.findingRecords, triggeredRecord, inconclusiveRecord]
  | .crashed message => simp [Detector.findingRecords]

/-- The warning of a detector is in the log of exactly the checks with its verdict. -/
theorem triggeredRecord_mem_iff {s : ProbeSettings} {ds : List Detector} {es : List Event}
    {o : Outcome Verdict} (h : Chronicle s ds es o) (d : Detector) :
    triggeredRecord d ∈ Inquiry.recordsIn es ↔ o = .finished d.verdict := by
  induction h with
  | none =>
      have hclean : Outcome.finished Verdict.clean ≠ .finished d.verdict :=
        fun h => d.verdict_ne_clean (Outcome.finished.inj h).symm
      simpa [Inquiry.recordsIn] using hclean
  | triggers _ =>
      rw [triggeredRecord_mem_entry_iff]
      constructor
      · rintro ⟨rfl, _⟩
        rfl
      · intro h
        exact ⟨(verdict_injective (Outcome.finished.inj h)).symm, rfl⟩
  | @passes e _ _ _ finding _ _ _ hpasses _ ih =>
      have hsilent : ¬ (d = e ∧ Outcome.finished finding = .finished (.ok true)) := by
        rintro ⟨_, hfinding⟩
        rw [Outcome.finished.inj hfinding] at hpasses
        cases hpasses
      rw [Inquiry.recordsIn_append, List.mem_append, triggeredRecord_mem_entry_iff,
        or_iff_right hsilent, ih]
  | crashes _ => simp [triggeredRecord_mem_entry_iff]

theorem triggeredRecord_not_mem_closing (d : Detector) (e : Enforcement) (o : Outcome Verdict) :
    triggeredRecord d ∉ e.closing o := by
  cases o with
  | crashed message => cases e <;> exact List.not_mem_nil
  | finished v => cases e <;> cases v <;> simp [Enforcement.closing, verdictRecord, auditRecords,
      triggeredRecord]

/-- A logger's limit decides which records are written and nothing else. Under the highest limit the
events of an enforced check are the opening record, the chronicle of its detectors and the closing
records, and the warnings of the prober tell the verdict. An inconclusive record tells the detector
and the error. -/
theorem log_tells_all {σ : Type} (limit : Log.Limit) (host : Host σ) (e : Enforcement)
    (s : ProbeSettings) (start : σ) :
    let full := Inquiry.runLogged (some .trace) host (enforce e s) start
    let limited := Inquiry.runLogged limit host (enforce e s) start
    limited.outcome = full.outcome ∧ limited.state = full.state ∧
    limited.questions = full.questions ∧
    limited.records = Log.kept limit full.records ∧
    (∀ level, limit.keeps level = true ↔ level ∈ limit.levels) ∧
    (∀ (d d' : Detector) (error error' : ProbeError), error.Quotable → error'.Quotable →
      (inconclusiveRecord d error = inconclusiveRecord d' error' ↔
        d = d' ∧ error.ReadsAs error')) ∧
    ∃ es o, Chronicle s (activeDetectors s) es o ∧
      full.events = .noted openingRecord :: es ++ (e.closing o).map .noted ∧
      full.outcome = o.map e.sentence ∧
      ∀ d, triggeredRecord d ∈ full.records ↔ o = .finished d.verdict := by
  intro full limited
  have hfull : full = Inquiry.run host (enforce e s) start :=
    Inquiry.runLogged_trace host (enforce e s) start
  have hlimited : limited = full.kept limit := by
    rw [hfull]
    exact Inquiry.runLogged_eq limit host (enforce e s) start
  have hchronicle := chronicle_check host s start
  refine ⟨by rw [hlimited]; rfl, by rw [hlimited]; rfl, ?_, ?_, limit.keeps_iff,
    fun _ _ _ _ => inconclusiveRecord_eq_iff, _, _, hchronicle, ?_, ?_, ?_⟩
  · rw [hlimited]
    exact Inquiry.exchanges_filter limit full.events
  · rw [hlimited]
    exact Inquiry.recordsIn_filter limit full.events
  · rw [hfull, run_enforce]
  · rw [hfull, run_enforce]
  · intro d
    have hopening : triggeredRecord d ≠ openingRecord := by simp [triggeredRecord, openingRecord]
    have hclosing := triggeredRecord_not_mem_closing d e (Inquiry.run host (check s) start).outcome
    rw [hfull, records_enforce, ← triggeredRecord_mem_iff hchronicle d]
    simp only [List.cons_append, List.mem_cons, List.mem_append, hopening, hclosing, false_or,
      or_false]
    rfl

/-- Scripts by which both queries fail and the workload takes 600 µs. -/
def doubtfulScripts : Host.Scripts where
  debuggerFlag := ⟨.finished (.error (.queryFailed "debugger_flag" .permissionDenied)), []⟩
  remoteDebugger := ⟨.finished (.error (.unsupported "remote_debugger")), []⟩
  counter := ⟨.finished (some 7), [.finished (some 607)]⟩

theorem log_tells_all_doubtful :
    let s : ProbeSettings := ⟨true, Settings.defaultThreshold, 3⟩
    let full := Inquiry.runLogged (some .trace) Host.scripted (enforce .audit s) doubtfulScripts
    let warnings := Inquiry.runLogged (some .warn) Host.scripted (enforce .audit s) doubtfulScripts
    full.records =
      [⟨.info, .integrity, "Checking process integrity..."⟩,
        ⟨.debug, .prober, "debugger_flag inconclusive, treating as clean: " ++
          "probe 'debugger_flag' query failed: Permission denied (os error 13)"⟩,
        ⟨.debug, .prober, "remote_debugger inconclusive, treating as clean: " ++
          "probe 'remote_debugger' is not supported on this platform"⟩,
        ⟨.trace, .timing, "elapsed=600us threshold=500us"⟩,
        ⟨.warn, .prober, "timing_anomaly triggered → Timing Anomaly (Single-Step Latency) (105)"⟩,
        ⟨.error, .integrity,
          "Integrity violation! Threat: 105 - Timing Anomaly (Single-Step Latency)"⟩,
        ⟨.warn, .integrity,
          "Audit mode: continuing despite Timing Anomaly (Single-Step Latency) (105)"⟩] ∧
    warnings.records =
      [⟨.warn, .prober, "timing_anomaly triggered → Timing Anomaly (Single-Step Latency) (105)"⟩,
        ⟨.error, .integrity,
          "Integrity violation! Threat: 105 - Timing Anomaly (Single-Step Latency)"⟩,
        ⟨.warn, .integrity,
          "Audit mode: continuing despite Timing Anomaly (Single-Step Latency) (105)"⟩] ∧
    warnings.outcome = .finished (.ok .timingAnomaly) ∧
    warnings.questions = full.questions ∧
    inconclusiveRecord .debuggerFlag (.queryFailed "debugger_flag" .permissionDenied) ≠
      inconclusiveRecord .debuggerFlag (.unsupported "debugger_flag") := by
  intro s full warnings
  obtain ⟨houtcome, _, hquestions, hrecords, _, hinconclusive, _⟩ :=
    log_tells_all (some .warn) Host.scripted .audit s doubtfulScripts
  refine ⟨by decide +kernel, ?_, houtcome.trans (by decide +kernel), hquestions, fun h => ?_⟩
  · exact hrecords.trans (by decide +kernel)
  · have hreads := ((hinconclusive _ _ _ _ (by decide) (by decide)).1 h).2
    cases hreads

end ProcessIntegrity
