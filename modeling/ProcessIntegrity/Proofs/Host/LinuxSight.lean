import ProcessIntegrity.Host.Linux
import ProcessIntegrity.Proofs.Probe.Ending
import ProcessIntegrity.Proofs.Probe.Precision
/-!
# A check on Linux

What a check makes of the status text and of the clock, whatever these say. Two of the four
detectors are never answered, so they can neither trigger nor make a difference: the verdict is one
of three, the same with the exception as without, and it depends on nothing but what is seen
(`check_of_sight`).
-/

namespace ProcessIntegrity.Linux

variable {σ : Type}

/-! ## What a check can see -/

/-- The status text, or why it cannot be read, and the clock before and after the work. -/
structure Sight where
  status : Except IoFailure String
  before : Nat
  after : Nat

def Machine.sight (m : Machine σ) (iterations : UInt32) (start : σ) : Sight :=
  let (status, s) := m.status start
  let (before, s) := m.clock s
  let (after, _) := m.clock (m.work iterations s)
  ⟨status, before, after⟩

namespace Sight

def Traced (v : Sight) : Prop :=
  ∃ text pid, v.status = .ok text ∧ tracerPid? text = some pid ∧ 0 < pid

/-- Both readings fit the counter, and between them lie so many microseconds and one more. -/
def Slow (v : Sight) (micros : Nat) : Prop :=
  v.before < 2 ^ 64 ∧ v.after < 2 ^ 64 ∧ v.before + 1000 * (micros + 1) ≤ v.after

theorem affirmed_debuggerFlag_iff (v : Sight) :
    affirmed (debuggerFlag v.status) = true ↔ v.Traced := by
  unfold Traced
  cases hstatus : v.status with
  | error cause => simp [debuggerFlag, affirmed]
  | ok text =>
      cases hpid : tracerPid? text with
      | none => simp [debuggerFlag, affirmed, hpid]
      | some pid => simp [debuggerFlag, affirmed, hpid]

instance (v : Sight) : Decidable v.Traced :=
  decidable_of_iff _ v.affirmed_debuggerFlag_iff

instance (v : Sight) (micros : Nat) : Decidable (v.Slow micros) :=
  inferInstanceAs (Decidable (_ ∧ _ ∧ _))

def verdict (v : Sight) (micros : Nat) : Verdict :=
  if v.Traced then .debuggerFlag else if v.Slow micros then .timingAnomaly else .clean

theorem verdict_cases (v : Sight) (micros : Nat) :
    (v.Traced ∧ v.verdict micros = .debuggerFlag) ∨
      (¬ v.Traced ∧ v.Slow micros ∧ v.verdict micros = .timingAnomaly) ∨
      (¬ v.Traced ∧ ¬ v.Slow micros ∧ v.verdict micros = .clean) := by
  unfold verdict
  by_cases htraced : v.Traced
  · exact .inl ⟨htraced, if_pos htraced⟩
  · rw [if_neg htraced]
    by_cases hslow : v.Slow micros
    · exact .inr (.inl ⟨htraced, hslow, if_pos hslow⟩)
    · exact .inr (.inr ⟨htraced, hslow, if_neg hslow⟩)

theorem verdict_eq_debuggerFlag_iff {v : Sight} {micros : Nat} :
    v.verdict micros = .debuggerFlag ↔ v.Traced := by
  rcases v.verdict_cases micros with ⟨h, hv⟩ | ⟨h, _, hv⟩ | ⟨h, _, hv⟩ <;> simp [h, hv]

theorem verdict_eq_timingAnomaly_iff {v : Sight} {micros : Nat} :
    v.verdict micros = .timingAnomaly ↔ ¬ v.Traced ∧ v.Slow micros := by
  rcases v.verdict_cases micros with ⟨h, hv⟩ | ⟨h, hslow, hv⟩ | ⟨h, hslow, hv⟩ <;> simp [*]

theorem verdict_eq_clean_iff {v : Sight} {micros : Nat} :
    v.verdict micros = .clean ↔ ¬ v.Traced ∧ ¬ v.Slow micros := by
  rcases v.verdict_cases micros with ⟨h, hv⟩ | ⟨h, hslow, hv⟩ | ⟨h, hslow, hv⟩ <;> simp [*]

/-- The verdicts of the detectors that have no answer do not occur. -/
theorem verdict_answered (v : Sight) (micros : Nat) :
    v.verdict micros ≠ .remoteDebugger ∧ v.verdict micros ≠ .exceptionIntercepted := by
  rcases v.verdict_cases micros with ⟨_, hv⟩ | ⟨_, _, hv⟩ | ⟨_, _, hv⟩ <;> simp [hv]

end Sight

/-! ## The time in nanoseconds -/

theorem reading?_of_lt {nanos : Nat} (h : nanos < 2 ^ 64) :
    reading? nanos = some (UInt64.ofNat nanos) :=
  if_pos h

theorem reading?_of_not_lt {nanos : Nat} (h : ¬ nanos < 2 ^ 64) : reading? nanos = none :=
  if_neg h

/-- Ticks are nanoseconds, so a microsecond more is a thousand ticks more. -/
theorem exceeds_iff {v : Sight} (hbefore : v.before < 2 ^ 64) (hafter : v.after < 2 ^ 64)
    (micros : Nat) :
    (⟨UInt64.ofNat v.before, UInt64.ofNat v.after, frequency⟩ : Timing.Sample).exceeds micros =
      true ↔ v.Slow micros := by
  have hfrequency : frequency.toNat = 1000000000 := rfl
  rw [Timing.Sample.exceeds_iff_of_pos (by rw [hfrequency]; decide)]
  unfold Timing.Sample.ticks Sight.Slow
  rw [UInt64.toNat_ofNat_of_lt' hbefore, UInt64.toNat_ofNat_of_lt' hafter, hfrequency]
  omega

/-! ## The policy -/

/-- The exception is never raised here: asked for or not, it cannot change the verdict. -/
theorem outcome_of_passed {m : Machine σ} {s : ProbeSettings} {start there : σ} {t : List Exchange}
    (hreplies : (host m).Replies start t there)
    (hpassed : Passed s [.debuggerFlag, .remoteDebugger, .timingAnomaly] t) :
    (Inquiry.run (host m) (check s) start).outcome = .finished .clean := by
  apply Inquiry.outcome_run_iff.2
  cases hexception : s.exceptionCheck with
  | false => exact ⟨t, there, hreplies, allows_check_iff.2 (policy_of_passed hexception hpassed)⟩
  | true =>
      have hunsupported : (host m).Replies there
          [⟨.raiseException, .finished (.error (.unsupported "exception_interception"))⟩] there :=
        .cons rfl (.nil there)
      exact ⟨_, there, Host.Replies.append_iff.2 ⟨there, hreplies, hunsupported⟩,
        allows_check_iff.2 (policy_of_passed_exception hexception hpassed _)⟩

section

variable (m : Machine σ) (s : ProbeSettings) (start : σ)

/-- The machine lets a check measure, and the sample is over the threshold exactly if what can be
seen is slow. -/
theorem exists_measured :
    ∃ t sample there, Measured s.iterations t (.finished sample) ∧
      (host m).Replies (m.status start).2 t there ∧
      anomalous s sample =
        decide ((m.sight s.iterations start).Slow s.threshold.wholeMicros) := by
  let v := m.sight s.iterations start
  let s₁ := (m.clock (m.status start).2).2
  have hpositive : frequency ≠ 0 := by decide
  have hstart : (host m).reply .readCounter (m.status start).2 =
      (.finished (reading? v.before), s₁) := rfl
  have hstop : (host m).reply .readCounter (m.work s.iterations s₁) =
      (.finished (reading? v.after), (m.clock (m.work s.iterations s₁)).2) := rfl
  by_cases hbefore : v.before < 2 ^ 64
  case neg =>
    rw [reading?_of_not_lt hbefore] at hstart
    exact ⟨_, _, _, .noStart (.finished none) hpositive (by simp),
      .cons rfl (.cons hstart (.nil _)), (decide_eq_false fun hslow => hbefore hslow.1).symm⟩
  rw [reading?_of_lt hbefore] at hstart
  by_cases hafter : v.after < 2 ^ 64
  case neg =>
    rw [reading?_of_not_lt hafter] at hstop
    exact ⟨_, _, _, .noStop (.finished none) hpositive (by simp),
      .cons rfl (.cons hstart (.cons rfl (.cons hstop (.nil _)))),
      (decide_eq_false fun hslow => hafter hslow.2.1).symm⟩
  rw [reading?_of_lt hafter] at hstop
  refine ⟨_, _, _, .sample hpositive,
    .cons rfl (.cons hstart (.cons rfl (.cons hstop (.nil _)))), ?_⟩
  rw [← exceeds_eq_anomalous hpositive, Bool.eq_iff_iff, decide_eq_true_iff]
  exact exceeds_iff hbefore hafter s.threshold.wholeMicros

theorem outcome_check :
    (Inquiry.run (host m) (check s) start).outcome =
      .finished ((m.sight s.iterations start).verdict s.threshold.wholeMicros) := by
  let v := m.sight s.iterations start
  have hflag : (host m).reply .debuggerFlag start =
      (.finished (debuggerFlag v.status), (m.status start).2) := rfl
  by_cases htraced : v.Traced
  · have hset := v.affirmed_debuggerFlag_iff.2 htraced
    rw [Sight.verdict_eq_debuggerFlag_iff.2 htraced]
    exact Inquiry.outcome_run_iff.2
      ⟨_, _, .cons hflag (.nil _), allows_check_iff.2 (policy_debuggerFlag hset)⟩
  have hclear : affirmed (debuggerFlag v.status) = false :=
    Bool.eq_false_iff.2 fun hset => htraced (v.affirmed_debuggerFlag_iff.1 hset)
  have hremote : affirmed (.error (.unsupported "remote_debugger")) = false := rfl
  obtain ⟨t, sample, there, hmeasured, hreplies, hsample⟩ := exists_measured m s start
  have hall := Host.Replies.cons hflag (.cons (q := .remoteDebugger) rfl hreplies)
  by_cases hslow : v.Slow s.threshold.wholeMicros
  · rw [decide_eq_true hslow] at hsample
    rw [Sight.verdict_eq_timingAnomaly_iff.2 ⟨htraced, hslow⟩]
    exact Inquiry.outcome_run_iff.2 ⟨_, there, hall,
      allows_check_iff.2 (policy_timingAnomaly hclear hremote hmeasured hsample)⟩
  · rw [decide_eq_false hslow] at hsample
    rw [Sight.verdict_eq_clean_iff.2 ⟨htraced, hslow⟩]
    exact outcome_of_passed hall (passed_timingAnomaly hclear hremote hmeasured hsample)

end

/-- A check comes to one of three verdicts, whatever the status text and the clock say, and each has
its condition on what is seen. Checks that see the same come to the same, with the exception or
without. -/
theorem check_of_sight (m : Machine σ) (s : ProbeSettings) (start : σ) :
    let v := m.sight s.iterations start
    let o := (Inquiry.run (host m) (check s) start).outcome
    (o = .finished .debuggerFlag ↔ v.Traced) ∧
    (o = .finished .timingAnomaly ↔ ¬ v.Traced ∧ v.Slow s.threshold.wholeMicros) ∧
    (o = .finished .clean ↔ ¬ v.Traced ∧ ¬ v.Slow s.threshold.wholeMicros) ∧
    (∃ verdict, o = .finished verdict ∧ verdict ≠ .remoteDebugger ∧
      verdict ≠ .exceptionIntercepted) ∧
    ∀ {σ' : Type} (m' : Machine σ') (start' : σ') (exceptionCheck : Bool),
      m'.sight s.iterations start' = v →
        (Inquiry.run (host m') (check { s with exceptionCheck }) start').outcome = o := by
  intro v o
  have ho : o = .finished (v.verdict s.threshold.wholeMicros) := outcome_check m s start
  have hfinished (verdict : Verdict) :
      o = .finished verdict ↔ v.verdict s.threshold.wholeMicros = verdict := by
    rw [ho, Outcome.finished.injEq]
  refine ⟨?_, ?_, ?_, ⟨_, ho, v.verdict_answered _⟩, ?_⟩
  · rw [hfinished, Sight.verdict_eq_debuggerFlag_iff]
  · rw [hfinished, Sight.verdict_eq_timingAnomaly_iff]
  · rw [hfinished, Sight.verdict_eq_clean_iff]
  · intro σ' m' start' exceptionCheck hsight
    rw [outcome_check, ho, ← hsight]

/-- A clock that stops a nanosecond short of the microsecond behind the threshold, and one that
reaches it. With the exception asked for, the second check comes to the same; in a process that is
traced the clock does not matter. -/
theorem check_of_sight_late :
    let s : ProbeSettings := ⟨false, Settings.defaultThreshold, 3⟩
    let status : Except IoFailure String := .ok "State:\tR\nTracerPid:\t0\n"
    let quick := (recorded status).sight 3 [7, 501006]
    let late := (recorded status).sight 3 [7, 501007]
    ¬ quick.Slow s.threshold.wholeMicros ∧ late.Slow s.threshold.wholeMicros ∧
      (Inquiry.run (host (recorded status)) (check s) [7, 501006]).outcome = .finished .clean ∧
      (Inquiry.run (host (recorded status)) (check s) [7, 501007]).outcome =
        .finished .timingAnomaly ∧
      (Inquiry.run (host (recorded status)) (check { s with exceptionCheck := true })
        [7, 501007, 9]).outcome = .finished .timingAnomaly ∧
      (Inquiry.run (host (recorded (.ok "State:\tt\nTracerPid:\t42\n"))) (check s)
        [7, 501007]).outcome = .finished .debuggerFlag := by
  intro s status quick late
  have hquick : ¬ quick.Traced ∧ ¬ quick.Slow s.threshold.wholeMicros := by decide
  have hlate : ¬ late.Traced ∧ late.Slow s.threshold.wholeMicros := by decide
  obtain ⟨-, -, hclean, -, -⟩ := check_of_sight (recorded status) s [7, 501006]
  obtain ⟨-, htiming, -, -, hsame⟩ := check_of_sight (recorded status) s [7, 501007]
  obtain ⟨htraced, -, -, -, -⟩ :=
    check_of_sight (recorded (.ok "State:\tt\nTracerPid:\t42\n")) s [7, 501007]
  have houtcome := htiming.2 hlate
  refine ⟨hquick.2, hlate.2, hclean.2 hquick, houtcome, ?_, htraced.2 (by decide)⟩
  exact (hsame (recorded status) [7, 501007, 9] true rfl).trans houtcome

end ProcessIntegrity.Linux
