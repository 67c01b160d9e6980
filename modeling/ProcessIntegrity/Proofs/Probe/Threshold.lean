import ProcessIntegrity.Proofs.Probe.FailOpen
/-!
# Raising the threshold

A sample that is over a threshold is over every lower one. So two checks that differ in nothing but
the threshold run alike, up to a sample that only the lower one finds too long: there the one check
ends with a timing anomaly, and the other goes on to the exception detector, if it is asked for, and
ends behind it (`raising_threshold`). What is compared are whole microseconds, so thresholds with
the same number of these give the same check, records included.
-/

namespace ProcessIntegrity

variable {σ : Type}

/-! ## The order of durations -/

namespace Duration

/-- Whole seconds decide, and nanoseconds among durations with the same seconds. -/
instance : LE Duration where
  le a b := a.secs < b.secs ∨ (a.secs = b.secs ∧ a.nanos ≤ b.nanos)

theorem le_iff_toNanos_le {a b : Duration} : a ≤ b ↔ a.toNanos ≤ b.toNanos := by
  have ha := a.nanos_lt
  have hb := b.nanos_lt
  change a.secs < b.secs ∨ (a.secs = b.secs ∧ a.nanos ≤ b.nanos) ↔ _
  unfold toNanos
  omega

theorem wholeMicros_le {a b : Duration} (h : a ≤ b) : a.wholeMicros ≤ b.wholeMicros := by
  rw [wholeMicros_eq, wholeMicros_eq]
  exact Nat.div_le_div_right (le_iff_toNanos_le.1 h)

end Duration

/-! ## Checks with the same microseconds -/

section

variable {s s' : ProbeSettings}

theorem evaluate_congr (hiterations : s.iterations = s'.iterations)
    (hmicros : s.thresholdMicros = s'.thresholdMicros) (d : Detector) :
    d.evaluate s = d.evaluate s' := by
  have hdetect : Timing.detect s = Timing.detect s' := by
    unfold Timing.detect
    rw [hiterations, hmicros]
  have hinquire : d.inquire s = d.inquire s' := by
    cases d with
    | timingAnomaly => exact hdetect
    | debuggerFlag | remoteDebugger | exceptionInterception => rfl
  unfold Detector.evaluate
  rw [hinquire]

theorem firstTriggered_congr (hiterations : s.iterations = s'.iterations)
    (hmicros : s.thresholdMicros = s'.thresholdMicros) (ds : List Detector) :
    firstTriggered s ds = firstTriggered s' ds := by
  induction ds with
  | nil => rfl
  | cons d later ih => rw [firstTriggered, firstTriggered, ih, evaluate_congr hiterations hmicros]

theorem check_congr (hiterations : s.iterations = s'.iterations)
    (hexception : s.exceptionCheck = s'.exceptionCheck)
    (hmicros : s.thresholdMicros = s'.thresholdMicros) : check s = check s' := by
  rw [check, check, Detector.sequence_eq, Detector.sequence_eq, hexception,
    firstTriggered_congr hiterations hmicros]

end

/-! ## Checks with another threshold -/

/-- The second settings are the first with a threshold that is no lower. -/
structure ProbeSettings.Raised (strict lenient : ProbeSettings) : Prop where
  iterations : strict.iterations = lenient.iterations
  exceptionCheck : strict.exceptionCheck = lenient.exceptionCheck
  threshold : strict.threshold ≤ lenient.threshold

section

variable {strict lenient : ProbeSettings}

theorem anomalous_of_raised (h : strict.Raised lenient) {sample : Except ProbeError Timing.Sample}
    (hlenient : anomalous lenient sample = true) : anomalous strict sample = true := by
  cases sample with
  | error e => exact hlenient
  | ok m =>
      have hmicros := Duration.wholeMicros_le h.threshold
      have hexceeds := of_decide_eq_true hlenient
      exact decide_eq_true (Nat.lt_of_le_of_lt hmicros hexceeds)

/-- A detector comes to the same with both thresholds, or it is the timing detector with a sample
that is over the lower one only. -/
theorem tried_of_raised (h : strict.Raised lenient) {d : Detector} {t : List Exchange}
    {o : Outcome Bool} (htried : Tried strict d t o) :
    Tried lenient d t o ∨
      (d = .timingAnomaly ∧ o = .finished true ∧ Tried lenient d t (.finished false)) := by
  cases htried with
  | debuggerFlag reply => exact .inl (.debuggerFlag reply)
  | remoteDebugger reply => exact .inl (.remoteDebugger reply)
  | exceptionInterception reply => exact .inl (.exceptionInterception reply)
  | @timingAnomaly _ sample hmeasured =>
      rw [h.iterations] at hmeasured
      have htried : Tried lenient .timingAnomaly t (sample.map (anomalous lenient)) :=
        .timingAnomaly hmeasured
      cases sample with
      | crashed message =>
          rw [Outcome.map_crashed] at htried
          exact .inl htried
      | finished m =>
          rw [Outcome.map_finished] at htried
          rw [Outcome.map_finished]
          -- A sample over the higher threshold is over the lower, so one of four cases is empty.
          cases hstrict : anomalous strict m with
          | false =>
              have hlenient : anomalous lenient m = false := by
                rw [← Bool.not_eq_true] at hstrict ⊢
                exact fun hlenient => hstrict (anomalous_of_raised h hlenient)
              rw [hlenient] at htried
              exact .inl htried
          | true =>
              cases hlenient : anomalous lenient m with
              | true =>
                  rw [hlenient] at htried
                  exact .inl htried
              | false =>
                  rw [hlenient] at htried
                  exact .inr ⟨rfl, rfl, htried⟩

/-- With both thresholds the same detectors decide, or with the lower one the timing detector
decides and with the higher one it is passed like those before it. -/
theorem firstMatch_of_raised (h : strict.Raised lenient) {ds : List Detector} {t : List Exchange}
    {o : Outcome Verdict} (hmatch : FirstMatch strict ds t o) :
    FirstMatch lenient ds t o ∨
      (o = .finished .timingAnomaly ∧ ∃ earlier later, ds = earlier ++ .timingAnomaly :: later ∧
        Passed lenient (earlier ++ [.timingAnomaly]) t) := by
  -- On the derivation with the lower threshold: that one may end early, never late.
  induction hmatch with
  | none => exact .inl .none
  | crashes htried =>
      rcases tried_of_raised h htried with htried | ⟨_, hcrash, _⟩
      · exact .inl (.crashes htried)
      · cases hcrash
  | @triggers d later t htried =>
      rcases tried_of_raised h htried with htried | ⟨rfl, _, htried⟩
      · exact .inl (.triggers htried)
      · refine .inr ⟨rfl, [], later, rfl, ?_⟩
        rw [← List.append_nil t]
        exact .cons htried .nil
  | @passes d later t u o htried _ ih =>
      have htried : Tried lenient d t (.finished false) := by
        rcases tried_of_raised h htried with htried | ⟨_, htrue, _⟩
        · exact htried
        · cases htrue
      rcases ih with hlater | ⟨rfl, earlier, later, rfl, hpassed⟩
      · exact .inl (.passes htried hlater)
      · exact .inr ⟨rfl, d :: earlier, later, rfl, .cons htried hpassed⟩

/-- The detectors of a check are the same with both thresholds, so what the lower one leaves to be
tried behind the timing detector is the exception, if the settings ask for it. -/
theorem policy_of_raised (h : strict.Raised lenient) {t : List Exchange} {o : Outcome Verdict}
    (hpolicy : Policy strict t o) :
    Policy lenient t o ∨ (o = .finished .timingAnomaly ∧
      Passed lenient [.debuggerFlag, .remoteDebugger, .timingAnomaly] t) := by
  have hactive : activeDetectors strict = activeDetectors lenient := by
    unfold activeDetectors
    rw [h.exceptionCheck]
  rcases firstMatch_of_raised h hpolicy with hmatch | ⟨ho, earlier, later, hsplit, hpassed⟩
  · rw [hactive] at hmatch
    exact .inl hmatch
  · rw [before_timingAnomaly hsplit] at hpassed
    exact .inr ⟨ho, hpassed⟩

end

/-! ## Behind the timing detector -/

section

variable {s : ProbeSettings}

theorem firstMatch_append {earlier later : List Detector} {t u : List Exchange}
    {o : Outcome Verdict} (hpassed : Passed s earlier t) (hlater : FirstMatch s later u o) :
    FirstMatch s (earlier ++ later) (t ++ u) o := by
  induction hpassed with
  | nil => exact hlater
  | cons htried _ ih =>
      rw [List.cons_append, List.append_assoc]
      exact .passes htried ih

def exceptionVerdict (reply : Except ProbeError ExceptionOutcome) : Verdict :=
  if consumed reply then .exceptionIntercepted else .clean

theorem firstMatch_exception (reply : Outcome (Except ProbeError ExceptionOutcome)) :
    FirstMatch s [.exceptionInterception] [⟨.raiseException, reply⟩]
      (reply.map exceptionVerdict) := by
  have htried : Tried s .exceptionInterception [⟨.raiseException, reply⟩] (reply.map consumed) :=
    .exceptionInterception reply
  cases reply with
  | crashed message => exact .crashes htried
  | finished r =>
      rw [Outcome.map_finished] at htried
      rw [Outcome.map_finished, exceptionVerdict]
      cases hconsumed : consumed r with
      | true =>
          rw [hconsumed] at htried
          exact .triggers htried
      | false =>
          rw [hconsumed] at htried
          exact .passes htried .none

/-- Behind the timing detector a check is over, if the exception is not asked for. -/
theorem policy_of_passed {t : List Exchange} (hexception : s.exceptionCheck = false)
    (hpassed : Passed s [.debuggerFlag, .remoteDebugger, .timingAnomaly] t) :
    Policy s t (.finished .clean) := by
  rw [Policy, activeDetectors, hexception]
  exact firstMatch_of_passed hpassed

theorem policy_of_passed_exception {t : List Exchange} (hexception : s.exceptionCheck = true)
    (hpassed : Passed s [.debuggerFlag, .remoteDebugger, .timingAnomaly] t)
    (reply : Outcome (Except ProbeError ExceptionOutcome)) :
    Policy s (t ++ [⟨.raiseException, reply⟩]) (reply.map exceptionVerdict) := by
  rw [Policy, activeDetectors, hexception]
  exact firstMatch_append hpassed (firstMatch_exception reply)

end

/-! ## Two runs side by side -/

/-- The first run stopped with a timing anomaly, where the second went on: to its end, or to the
exception, if that is to be tried, and then to its end. -/
inductive GoesFurther (host : Host σ) :
    Bool → Inquiry.Interview σ Verdict → Inquiry.Interview σ Verdict → Prop
  | ends {t : List Exchange} {there : σ} :
      GoesFurther host false ⟨t, .finished .timingAnomaly, there⟩ ⟨t, .finished .clean, there⟩
  | raises {t : List Exchange} {there last : σ}
      {reply : Outcome (Except ProbeError ExceptionOutcome)} :
      host.reply .raiseException there = (reply, last) →
      GoesFurther host true ⟨t, .finished .timingAnomaly, there⟩
        ⟨t ++ [⟨.raiseException, reply⟩], reply.map exceptionVerdict, last⟩

theorem goesFurther_of_passed {host : Host σ} {s : ProbeSettings} {start there : σ}
    {t : List Exchange} (hreplies : host.Replies start t there)
    (hpassed : Passed s [.debuggerFlag, .remoteDebugger, .timingAnomaly] t) :
    GoesFurther host s.exceptionCheck ⟨t, .finished .timingAnomaly, there⟩
      (Inquiry.run host (check s) start).interview := by
  cases hexception : s.exceptionCheck with
  | false =>
      have hpolicy := policy_of_passed hexception hpassed
      rw [Inquiry.interview_run_of_allows (allows_check_iff.2 hpolicy) hreplies]
      exact .ends
  | true =>
      rcases hreply : host.reply .raiseException there with ⟨reply, last⟩
      have hpolicy := policy_of_passed_exception hexception hpassed reply
      have hlater : host.Replies start (t ++ [⟨.raiseException, reply⟩]) last :=
        Host.Replies.append_iff.2 ⟨there, hreplies, .cons hreply (.nil last)⟩
      rw [Inquiry.interview_run_of_allows (allows_check_iff.2 hpolicy) hlater]
      exact .raises hreply

/-- The two runs are one and the same to the host, or the lower threshold stopped the first. -/
theorem interview_of_raised (host : Host σ) (start : σ) {strict lenient : ProbeSettings}
    (h : strict.Raised lenient) :
    (Inquiry.run host (check lenient) start).interview =
        (Inquiry.run host (check strict) start).interview ∨
      GoesFurther host lenient.exceptionCheck (Inquiry.run host (check strict) start).interview
        (Inquiry.run host (check lenient) start).interview := by
  obtain ⟨hreplies, hallows⟩ := Inquiry.replies_allows_run host (check strict) start
  rcases policy_of_raised h (allows_check_iff.1 hallows) with hpolicy | ⟨hanomaly, hpassed⟩
  · exact .inl (Inquiry.interview_run_of_allows (allows_check_iff.2 hpolicy) hreplies)
  · right
    rw [Inquiry.Run.interview, hanomaly]
    exact goesFurther_of_passed hreplies hpassed

theorem GoesFurther.outcome_ne {host : Host σ} {exceptionCheck : Bool}
    {v w : Inquiry.Interview σ Verdict} (h : GoesFurther host exceptionCheck v w) :
    w.outcome ≠ .finished .timingAnomaly := by
  cases h with
  | ends => simp
  | @raises _ _ _ reply _ =>
      cases reply with
      | crashed message => simp
      | finished r =>
          rw [Outcome.map_finished, exceptionVerdict]
          split <;> simp

/-- A higher threshold makes no difference to a check, or it has the check go on where the lower one
ends it with a timing anomaly. So an anomaly by the higher threshold is one by the lower, and a
threshold with the same whole microseconds gives the same run. -/
theorem raising_threshold {σ : Type} (host : Host σ) (s : ProbeSettings) (start : σ)
    {low high : Duration} (h : low ≤ high) :
    let runAt := fun d : Duration => Inquiry.run host (check { s with threshold := d }) start
    ((runAt high).interview = (runAt low).interview ∨
        GoesFurther host s.exceptionCheck (runAt low).interview (runAt high).interview) ∧
      ((runAt high).outcome = .finished .timingAnomaly →
        (runAt low).outcome = .finished .timingAnomaly) ∧
      ∀ d d' : Duration, d.wholeMicros = d'.wholeMicros → runAt d = runAt d' := by
  intro runAt
  have hraised : ({ s with threshold := low } : ProbeSettings).Raised
      { s with threshold := high } := ⟨rfl, rfl, h⟩
  have hinterview : (runAt high).interview = (runAt low).interview ∨
      GoesFurther host s.exceptionCheck (runAt low).interview (runAt high).interview :=
    interview_of_raised host start hraised
  refine ⟨hinterview, ?_, ?_⟩
  · intro hanomaly
    rcases hinterview with hsame | hfurther
    · exact (congrArg Inquiry.Interview.outcome hsame).symm.trans hanomaly
    · exact absurd hanomaly hfurther.outcome_ne
  · -- Not only the questions: the records name the threshold in whole microseconds as well.
    intro d d' hmicros
    have hcheck : check { s with threshold := d } = check { s with threshold := d' } :=
      check_congr rfl rfl hmicros
    exact congrArg (Inquiry.run host · start) hcheck

/-- A workload of 700 µs in a process whose exceptions somebody else takes. -/
def slowScripts : Host.Scripts where
  counter := ⟨.finished (some 0), [.finished (some 700)]⟩
  exception := ⟨.finished (.ok .intercepted), []⟩

theorem raising_threshold_slow :
    let s : ProbeSettings := ⟨true, Settings.defaultThreshold, 3⟩
    let high : Duration := .ofMicros 700 (by decide)
    let strict := Inquiry.run Host.scripted (check s) slowScripts
    let lenient := Inquiry.run Host.scripted (check { s with threshold := high }) slowScripts
    (lenient.interview = strict.interview ∨
        GoesFurther Host.scripted true strict.interview lenient.interview) ∧
      strict.outcome = .finished .timingAnomaly ∧
      lenient.outcome = .finished .exceptionIntercepted := by
  have hle : Settings.defaultThreshold ≤ .ofMicros 700 (by decide) :=
    Duration.le_iff_toNanos_le.2 (by decide)
  obtain ⟨hinterview, -, -⟩ := raising_threshold Host.scripted
    ⟨true, Settings.defaultThreshold, 3⟩ slowScripts hle
  exact ⟨hinterview, rfl, rfl⟩

end ProcessIntegrity
