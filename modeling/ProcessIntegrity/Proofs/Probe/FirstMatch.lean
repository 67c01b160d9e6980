import ProcessIntegrity.Probe.Check
import ProcessIntegrity.Proofs.Probe.Transcript
/-!
# The first match decides

The policy of a check as a relation between the transcript and the verdict, with no host and no
program in it. `Measured` says which questions a measurement asks and where it stops, `Tried` does
the same for each detector, and `FirstMatch` goes through the detectors in their order. `Policy` is
the policy of the settings. The result is that successive checks of one process leave exactly the
transcripts and verdicts of the policy (`checks_iff_policy`).
-/

namespace ProcessIntegrity

open Inquiry (Allows)

/-- The questions of a measurement with their replies, and the sample it takes. It stops at the
first reply that it cannot use; a crash, here and in all that follows, is passed on. -/
inductive Measured (iterations : UInt32) :
    List Exchange → Outcome (Except ProbeError Timing.Sample) → Prop
  | noFrequency (frequency : Outcome (Option UInt64))
      (unusable : ∀ f, frequency = .finished (some f) → f = 0) :
      Measured iterations [⟨.counterFrequency, frequency⟩]
        (frequency.map fun _ => .error .timerUnavailable)
  | noStart {f : UInt64} (start : Outcome (Option UInt64)) (positive : f ≠ 0)
      (unusable : ∀ a, start ≠ .finished (some a)) :
      Measured iterations
        [⟨.counterFrequency, .finished (some f)⟩, ⟨.readCounter, start⟩]
        (start.map fun _ => .error .timerUnavailable)
  | noWork {f a : UInt64} {message : String} (positive : f ≠ 0) :
      Measured iterations
        [⟨.counterFrequency, .finished (some f)⟩, ⟨.readCounter, .finished (some a)⟩,
          ⟨.runWorkload iterations, .crashed message⟩]
        (.crashed message)
  | noStop {f a work : UInt64} (stop : Outcome (Option UInt64)) (positive : f ≠ 0)
      (unusable : ∀ b, stop ≠ .finished (some b)) :
      Measured iterations
        [⟨.counterFrequency, .finished (some f)⟩, ⟨.readCounter, .finished (some a)⟩,
          ⟨.runWorkload iterations, .finished work⟩, ⟨.readCounter, stop⟩]
        (stop.map fun _ => .error .timerUnavailable)
  | sample {f a work b : UInt64} (positive : f ≠ 0) :
      Measured iterations
        [⟨.counterFrequency, .finished (some f)⟩, ⟨.readCounter, .finished (some a)⟩,
          ⟨.runWorkload iterations, .finished work⟩, ⟨.readCounter, .finished (some b)⟩]
        (.finished (.ok ⟨a, b, f⟩))

/-- A sample shows an anomaly when strictly more whole microseconds have passed than the threshold
has. Without a sample there is none. -/
def anomalous (s : ProbeSettings) : Except ProbeError Timing.Sample → Bool
  | .ok m => s.threshold.wholeMicros < (m.stop.toNat - m.start.toNat) * 1000000 / m.frequency.toNat
  | .error _ => false

def affirmed : Except ProbeError Bool → Bool
  | .ok answer => answer
  | .error _ => false

theorem affirmed_ok (answer : Bool) : affirmed (.ok answer) = answer := rfl

def consumed : Except ProbeError ExceptionOutcome → Bool
  | .ok .intercepted => true
  | _ => false

inductive Tried (s : ProbeSettings) : Detector → List Exchange → Outcome Bool → Prop
  | debuggerFlag (reply : Outcome (Except ProbeError Bool)) :
      Tried s .debuggerFlag [⟨.debuggerFlag, reply⟩] (reply.map affirmed)
  | remoteDebugger (reply : Outcome (Except ProbeError Bool)) :
      Tried s .remoteDebugger [⟨.remoteDebugger, reply⟩] (reply.map affirmed)
  | timingAnomaly {t : List Exchange} {sample : Outcome (Except ProbeError Timing.Sample)} :
      Measured s.iterations t sample → Tried s .timingAnomaly t (sample.map (anomalous s))
  | exceptionInterception (reply : Outcome (Except ProbeError ExceptionOutcome)) :
      Tried s .exceptionInterception [⟨.raiseException, reply⟩] (reply.map consumed)

/-- Detectors are tried in order until one triggers, and that one gives the verdict. -/
inductive FirstMatch (s : ProbeSettings) :
    List Detector → List Exchange → Outcome Verdict → Prop
  | none : FirstMatch s [] [] (.finished .clean)
  | triggers {d : Detector} {later : List Detector} {t : List Exchange} :
      Tried s d t (.finished true) → FirstMatch s (d :: later) t (.finished d.verdict)
  | passes {d : Detector} {later : List Detector} {t u : List Exchange} {o : Outcome Verdict} :
      Tried s d t (.finished false) → FirstMatch s later u o →
      FirstMatch s (d :: later) (t ++ u) o
  | crashes {d : Detector} {later : List Detector} {t : List Exchange} {message : String} :
      Tried s d t (.crashed message) → FirstMatch s (d :: later) t (.crashed message)

def activeDetectors (s : ProbeSettings) : List Detector :=
  [.debuggerFlag, .remoteDebugger, .timingAnomaly] ++
    if s.exceptionCheck then [.exceptionInterception] else []

def Policy (s : ProbeSettings) : List Exchange → Outcome Verdict → Prop :=
  FirstMatch s (activeDetectors s)

/-! ## One detector -/

/-- Reading the counter, and giving up where it has no reading. -/
theorem allows_reading_iff {α : Type} {next : UInt64 → Inquiry (Except ProbeError α)}
    {t : List Exchange} {o : Outcome (Except ProbeError α)} :
    Allows (do
      match ← Inquiry.question .readCounter with
      | none => return .error .timerUnavailable
      | some a => next a) t o ↔
      (∃ a u, t = ⟨.readCounter, .finished (some a)⟩ :: u ∧ Allows (next a) u o) ∨
        ∃ reply : Outcome (Option UInt64), (∀ a, reply ≠ .finished (some a)) ∧
          t = [⟨.readCounter, reply⟩] ∧ o = reply.map fun _ => .error .timerUnavailable := by
  rw [Inquiry.allows_question_bind_iff]
  constructor
  · rintro (⟨answer, u, rfl, hnext⟩ | ⟨message, rfl, rfl⟩)
    · cases answer with
      | none =>
          obtain ⟨rfl, rfl⟩ := Inquiry.allows_pure_iff.1 hnext
          exact .inr ⟨.finished none, by simp, rfl, rfl⟩
      | some a => exact .inl ⟨a, u, rfl, hnext⟩
    · exact .inr ⟨.crashed message, by simp, rfl, rfl⟩
  · rintro (⟨a, u, rfl, hnext⟩ | ⟨reply, hnone, rfl, rfl⟩)
    · exact .inl ⟨some a, u, rfl, hnext⟩
    · match reply, hnone with
      | .finished none, _ => exact .inl ⟨none, [], rfl, .done _⟩
      | .finished (some a), hnone => exact absurd rfl (hnone a)
      | .crashed message, _ => exact .inr ⟨message, rfl, rfl⟩

theorem measured_of_allows {iterations : UInt32} {t : List Exchange}
    {o : Outcome (Except ProbeError Timing.Sample)} (h : Allows (Timing.measure iterations) t o) :
    Measured iterations t o := by
  rcases Inquiry.allows_question_bind_iff.1 h with ⟨frequency, t, rfl, h₁⟩ | ⟨message, rfl, rfl⟩
  case inr => exact .noFrequency (.crashed message) (by simp)
  cases frequency with
  | none =>
      obtain ⟨rfl, rfl⟩ := Inquiry.allows_pure_iff.1 h₁
      exact .noFrequency (.finished none) (by simp)
  | some f =>
      by_cases hf : f = 0
      · subst hf
        obtain ⟨rfl, rfl⟩ := Inquiry.allows_pure_iff.1 h₁
        exact .noFrequency (.finished (some 0)) (by simp)
      simp only [if_neg hf] at h₁
      rcases allows_reading_iff.1 h₁ with ⟨a, t, rfl, h₂⟩ | ⟨start, hstart, rfl, rfl⟩
      case inr => exact .noStart start hf hstart
      rcases Inquiry.allows_question_bind_iff.1 h₂ with ⟨work, t, rfl, h₃⟩ | ⟨message, rfl, rfl⟩
      case inr => exact .noWork hf
      rcases allows_reading_iff.1 h₃ with ⟨b, t, rfl, h₄⟩ | ⟨stop, hstop, rfl, rfl⟩
      case inr => exact .noStop stop hf hstop
      obtain ⟨rfl, rfl⟩ := Inquiry.allows_pure_iff.1 h₄
      exact .sample hf

theorem allows_of_measured {iterations : UInt32} {t : List Exchange}
    {o : Outcome (Except ProbeError Timing.Sample)} (h : Measured iterations t o) :
    Allows (Timing.measure iterations) t o := by
  rw [Timing.measure, Inquiry.allows_question_bind_iff]
  cases h with
  | noFrequency frequency unusable =>
      match frequency, unusable with
      | .finished none, _ => exact .inl ⟨none, [], rfl, .done _⟩
      | .finished (some f), unusable =>
          obtain rfl := unusable f rfl
          exact .inl ⟨some 0, [], rfl, .done _⟩
      | .crashed message, _ => exact .inr ⟨message, rfl, rfl⟩
  | @noStart f start positive unusable =>
      refine .inl ⟨some f, _, rfl, ?_⟩
      simp only [if_neg positive]
      exact allows_reading_iff.2 (.inr ⟨start, unusable, rfl, rfl⟩)
  | @noWork f a message positive =>
      refine .inl ⟨some f, _, rfl, ?_⟩
      simp only [if_neg positive]
      exact allows_reading_iff.2 (.inl ⟨a, _, rfl, .crashed message⟩)
  | @noStop f a work stop positive unusable =>
      refine .inl ⟨some f, _, rfl, ?_⟩
      simp only [if_neg positive]
      exact allows_reading_iff.2 (.inl ⟨a, _, rfl,
        .answered (allows_reading_iff.2 (.inr ⟨stop, unusable, rfl, rfl⟩))⟩)
  | @sample f a work b positive =>
      refine .inl ⟨some f, _, rfl, ?_⟩
      simp only [if_neg positive]
      exact allows_reading_iff.2 (.inl ⟨a, _, rfl,
        .answered (allows_reading_iff.2 (.inl ⟨b, [], rfl, .done _⟩))⟩)

theorem allows_measure_iff {iterations : UInt32} {t : List Exchange}
    {o : Outcome (Except ProbeError Timing.Sample)} :
    Allows (Timing.measure iterations) t o ↔ Measured iterations t o :=
  ⟨measured_of_allows, allows_of_measured⟩

/-- The frequency of a sample is never zero, so the detector divides by the frequency itself. -/
theorem frequency_ne_zero {iterations : UInt32} {t : List Exchange}
    {o : Outcome (Except ProbeError Timing.Sample)} (h : Measured iterations t o)
    {m : Timing.Sample} (hm : o = .finished (.ok m)) : m.frequency ≠ 0 := by
  cases h with
  | noFrequency frequency _ => cases frequency <;> cases hm
  | noStart start _ _ => cases start <;> cases hm
  | noWork _ => cases hm
  | noStop stop _ _ => cases stop <;> cases hm
  | sample positive =>
      cases hm
      exact positive

theorem Timing.Sample.elapsedMicros_of_frequency (m : Timing.Sample) (h : m.frequency ≠ 0) :
    m.elapsedMicros = (m.stop.toNat - m.start.toNat) * 1000000 / m.frequency.toNat := by
  have hne : m.frequency.toNat ≠ 0 := fun hzero => h (UInt64.toNat_inj.1 hzero)
  have hmax : max m.frequency.toNat 1 = m.frequency.toNat := by omega
  rw [elapsedMicros, ticks, hmax]

theorem exceeds_eq_anomalous {s : ProbeSettings} {m : Timing.Sample} (h : m.frequency ≠ 0) :
    m.exceeds s.thresholdMicros = anomalous s (.ok m) := by
  rw [Timing.Sample.exceeds, m.elapsedMicros_of_frequency h, ProbeSettings.thresholdMicros,
    anomalous]

def judged (s : ProbeSettings) (sample : Except ProbeError Timing.Sample) :
    Except ProbeError Bool :=
  sample.map (Timing.Sample.exceeds · s.thresholdMicros)

theorem judged_ok (s : ProbeSettings) (m : Timing.Sample) :
    judged s (.ok m) = .ok (m.exceeds s.thresholdMicros) := rfl

theorem allows_detect_iff {s : ProbeSettings} {t : List Exchange}
    {o : Outcome (Except ProbeError Bool)} :
    Allows (Timing.detect s) t o ↔
      ∃ sample, Measured s.iterations t sample ∧ o = sample.map (judged s) := by
  simp only [← allows_measure_iff]
  refine Inquiry.allows_bind_silent_iff fun sample t o => ?_
  cases sample with
  | error e => exact Inquiry.allows_done_iff
  | ok m => exact Inquiry.allows_note_iff.trans Inquiry.allows_done_iff

theorem allows_evaluate_iff_inquire {s : ProbeSettings} {d : Detector} {t : List Exchange}
    {o : Outcome Bool} :
    Allows (d.evaluate s) t o ↔ ∃ reply, Allows (d.inquire s) t reply ∧ o = reply.map affirmed := by
  refine Inquiry.allows_bind_silent_iff fun reply t o => ?_
  match reply with
  | .ok true => exact Inquiry.allows_note_iff.trans Inquiry.allows_done_iff
  | .ok false => exact Inquiry.allows_done_iff
  | .error e => exact Inquiry.allows_note_iff.trans Inquiry.allows_done_iff

theorem allows_inquire_exception_iff {s : ProbeSettings} {t : List Exchange}
    {o : Outcome (Except ProbeError Bool)} :
    Allows (Detector.inquire s .exceptionInterception) t o ↔
      ∃ reply, t = [⟨.raiseException, reply⟩] ∧
        o = reply.map (Except.map (· == ExceptionOutcome.intercepted)) := by
  rw [Detector.inquire, Inquiry.allows_bind_silent_iff fun _ _ _ => Inquiry.allows_pure_iff]
  exact exists_congr fun _ => and_congr_left' Inquiry.allows_question_iff

theorem affirmed_judged {s : ProbeSettings} {t : List Exchange}
    {sample : Outcome (Except ProbeError Timing.Sample)} (h : Measured s.iterations t sample) :
    (sample.map (judged s)).map affirmed = sample.map (anomalous s) := by
  cases sample with
  | crashed message => rfl
  | finished sample =>
      cases sample with
      | error e => rfl
      | ok m =>
          have hpositive : m.frequency ≠ 0 := frequency_ne_zero h rfl
          rw [Outcome.map_finished, Outcome.map_finished, Outcome.map_finished, judged_ok,
            affirmed_ok, exceeds_eq_anomalous hpositive]

theorem affirmed_intercepted (reply : Outcome (Except ProbeError ExceptionOutcome)) :
    (reply.map (Except.map (· == ExceptionOutcome.intercepted))).map affirmed =
      reply.map consumed := by
  match reply with
  | .finished (.ok .handledLocally) => rfl
  | .finished (.ok .intercepted) => rfl
  | .finished (.error e) => rfl
  | .crashed message => rfl

theorem tried_of_allows {s : ProbeSettings} {d : Detector} {t : List Exchange}
    {o : Outcome (Except ProbeError Bool)} (h : Allows (d.inquire s) t o) :
    Tried s d t (o.map affirmed) := by
  cases d with
  | debuggerFlag =>
      rw [Inquiry.allows_question_iff.1 h]
      exact .debuggerFlag o
  | remoteDebugger =>
      rw [Inquiry.allows_question_iff.1 h]
      exact .remoteDebugger o
  | timingAnomaly =>
      obtain ⟨sample, hsample, rfl⟩ := allows_detect_iff.1 h
      rw [affirmed_judged hsample]
      exact .timingAnomaly hsample
  | exceptionInterception =>
      obtain ⟨reply, rfl, rfl⟩ := allows_inquire_exception_iff.1 h
      rw [affirmed_intercepted]
      exact .exceptionInterception reply

theorem allows_of_tried {s : ProbeSettings} {d : Detector} {t : List Exchange} {o : Outcome Bool}
    (h : Tried s d t o) : ∃ reply, Allows (d.inquire s) t reply ∧ o = reply.map affirmed := by
  cases h with
  | debuggerFlag reply => exact ⟨reply, Inquiry.allows_question_iff.2 rfl, rfl⟩
  | remoteDebugger reply => exact ⟨reply, Inquiry.allows_question_iff.2 rfl, rfl⟩
  | timingAnomaly hsample =>
      exact ⟨_, allows_detect_iff.2 ⟨_, hsample, rfl⟩, (affirmed_judged hsample).symm⟩
  | exceptionInterception reply =>
      exact ⟨_, allows_inquire_exception_iff.2 ⟨reply, rfl, rfl⟩, (affirmed_intercepted reply).symm⟩

theorem allows_evaluate_iff {s : ProbeSettings} {d : Detector} {t : List Exchange}
    {o : Outcome Bool} : Allows (d.evaluate s) t o ↔ Tried s d t o := by
  rw [allows_evaluate_iff_inquire]
  constructor
  · rintro ⟨reply, h, rfl⟩
    exact tried_of_allows h
  · exact allows_of_tried

/-! ## All detectors -/

theorem allows_firstTriggered_iff {s : ProbeSettings} {ds : List Detector} {t : List Exchange}
    {o : Outcome Verdict} : Allows (firstTriggered s ds) t o ↔ FirstMatch s ds t o := by
  induction ds generalizing t o with
  | nil =>
      constructor
      · intro h
        obtain ⟨rfl, rfl⟩ := Inquiry.allows_pure_iff.1 h
        exact .none
      · rintro ⟨⟩
        exact .done _
  | cons d later ih =>
      rw [firstTriggered, Inquiry.allows_bind_iff]
      simp only [allows_evaluate_iff]
      constructor
      · rintro (⟨triggered, t, u, rfl, htried, hlater⟩ | ⟨message, htried, rfl⟩)
        · cases triggered with
          | true =>
              obtain ⟨rfl, rfl⟩ := Inquiry.allows_pure_iff.1 hlater
              rw [List.append_nil]
              exact .triggers htried
          | false => exact .passes htried (ih.1 hlater)
        · exact .crashes htried
      · intro h
        cases h with
        | triggers htried => exact .inl ⟨true, t, [], by simp, htried, .done _⟩
        | passes htried hlater => exact .inl ⟨false, _, _, rfl, htried, ih.2 hlater⟩
        | crashes htried => exact .inr ⟨_, htried, rfl⟩

theorem sequence_eq_activeDetectors (s : ProbeSettings) :
    Detector.sequence s = activeDetectors s := by
  rw [Detector.sequence_eq, activeDetectors]
  split <;> rfl

theorem allows_check_iff {s : ProbeSettings} {t : List Exchange} {o : Outcome Verdict} :
    Allows (check s) t o ↔ Policy s t o := by
  rw [check, allows_firstTriggered_iff, sequence_eq_activeDetectors, Policy]

/-! ## Where a check ends -/

inductive Passed (s : ProbeSettings) : List Detector → List Exchange → Prop
  | nil : Passed s [] []
  | cons {d : Detector} {later : List Detector} {t u : List Exchange} :
      Tried s d t (.finished false) → Passed s later u → Passed s (d :: later) (t ++ u)

theorem firstMatch_of_passed {s : ProbeSettings} {ds : List Detector} {t : List Exchange}
    (h : Passed s ds t) : FirstMatch s ds t (.finished .clean) := by
  induction h with
  | nil => exact .none
  | cons htried _ ih => exact .passes htried ih

theorem firstMatch_of_passed_tried {s : ProbeSettings} {d : Detector}
    {earlier later : List Detector} {t u : List Exchange} {o : Outcome Bool}
    (hpassed : Passed s earlier t) (htried : Tried s d u o) (ho : o ≠ .finished false) :
    FirstMatch s (earlier ++ d :: later) (t ++ u) (o.map fun _ => d.verdict) := by
  induction hpassed with
  | nil =>
      match o, htried, ho with
      | .finished true, htried, _ => exact .triggers htried
      | .finished false, _, ho => exact absurd rfl ho
      | .crashed message, htried, _ => exact .crashes htried
  | cons hfirst _ ih =>
      rw [List.cons_append, List.append_assoc]
      exact .passes hfirst ih

/-- A check passes all its detectors, or it ends at one of them, which triggers or crashes. -/
theorem firstMatch_iff {s : ProbeSettings} {ds : List Detector} {t : List Exchange}
    {o : Outcome Verdict} :
    FirstMatch s ds t o ↔
      (Passed s ds t ∧ o = .finished .clean) ∨
        ∃ earlier d later u v r, ds = earlier ++ d :: later ∧ t = u ++ v ∧ Passed s earlier u ∧
          Tried s d v r ∧ r ≠ .finished false ∧ o = r.map fun _ => d.verdict := by
  constructor
  · intro h
    induction h with
    | none => exact .inl ⟨.nil, rfl⟩
    | triggers htried =>
        exact .inr ⟨[], _, _, [], _, _, rfl, rfl, .nil, htried, by simp, rfl⟩
    | crashes htried =>
        exact .inr ⟨[], _, _, [], _, _, rfl, rfl, .nil, htried, by simp, rfl⟩
    | @passes d _ t _ _ htried _ ih =>
        rcases ih with ⟨hpassed, rfl⟩ | ⟨earlier, e, later, u, v, r, rfl, rfl, hpassed, hend⟩
        · exact .inl ⟨.cons htried hpassed, rfl⟩
        · exact .inr ⟨d :: earlier, e, later, t ++ u, v, r, rfl, by simp,
            .cons htried hpassed, hend⟩
  · rintro (⟨hpassed, rfl⟩ | ⟨_, _, _, _, _, _, rfl, rfl, hpassed, htried, hr, rfl⟩)
    · exact firstMatch_of_passed hpassed
    · exact firstMatch_of_passed_tried hpassed htried hr

/-! ## Successive checks -/

/-- Any number of successive checks leave transcripts and verdicts of the policy, each check in the
state that the one before left, and no others do. -/
theorem checks_iff_policy {σ : Type} (host : Host σ) (s : ProbeSettings) (start : σ) (n : Nat)
    (vs : List (Inquiry.Interview σ Verdict)) :
    (Inquiry.runEach host (List.replicate n (check s)) start).map Inquiry.Run.interview = vs ↔
      vs.length = n ∧ Inquiry.Session host (Policy s) start vs :=
  Inquiry.runEach_replicate_iff fun _ _ => allows_check_iff

end ProcessIntegrity
