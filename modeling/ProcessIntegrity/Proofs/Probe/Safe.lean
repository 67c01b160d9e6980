import ProcessIntegrity.Proofs.Probe.FirstMatch
/-!
# Settings that are safe to probe with

Safe settings bound the workload from both sides and have a threshold of at least one whole
microsecond. The bounds are those of every workload that a check starts, because the policy has no
other; the threshold keeps the timing detector from triggering on a sample that no clock of whole
microseconds can tell from an undisturbed one.
-/

namespace ProcessIntegrity

/-- Settings that any process can be probed with. -/
structure ProbeSettings.Safe (s : ProbeSettings) : Prop where
  iterations_pos : 1 ≤ s.iterations.toNat
  iterations_le : s.iterations.toNat ≤ Settings.maxIterations.toNat
  threshold_pos : 1 ≤ s.thresholdMicros

/-! ## The workload of a check -/

def OwnWorkload (s : ProbeSettings) (t : List Exchange) : Prop :=
  ∀ e ∈ t, ∀ k, e.1 = .runWorkload k → k = s.iterations

theorem ownWorkload_append {s : ProbeSettings} {t u : List Exchange} (ht : OwnWorkload s t)
    (hu : OwnWorkload s u) : OwnWorkload s (t ++ u) := by
  intro e he
  rcases List.mem_append.1 he with he | he
  · exact ht e he
  · exact hu e he

theorem ownWorkload_of_measured {s : ProbeSettings} {t : List Exchange}
    {o : Outcome (Except ProbeError Timing.Sample)} (h : Measured s.iterations t o) :
    OwnWorkload s t := by
  cases h with
  | noFrequency frequency unusable => simp [OwnWorkload]
  | noStart start positive unusable => simp [OwnWorkload]
  | noWork positive => simp [OwnWorkload]
  | noStop stop positive unusable => simp [OwnWorkload]
  | sample positive => simp [OwnWorkload]

theorem ownWorkload_of_tried {s : ProbeSettings} {d : Detector} {t : List Exchange}
    {o : Outcome Bool} (h : Tried s d t o) : OwnWorkload s t := by
  cases h with
  | debuggerFlag reply => simp [OwnWorkload]
  | remoteDebugger reply => simp [OwnWorkload]
  | timingAnomaly hmeasured => exact ownWorkload_of_measured hmeasured
  | exceptionInterception reply => simp [OwnWorkload]

theorem ownWorkload_of_firstMatch {s : ProbeSettings} {ds : List Detector} {t : List Exchange}
    {o : Outcome Verdict} (h : FirstMatch s ds t o) : OwnWorkload s t := by
  induction h with
  | none => simp [OwnWorkload]
  | triggers htried => exact ownWorkload_of_tried htried
  | passes htried _ ih => exact ownWorkload_append (ownWorkload_of_tried htried) ih
  | crashes htried => exact ownWorkload_of_tried htried

theorem ownWorkload_checks {σ : Type} (host : Host σ) (s : ProbeSettings) (start : σ) (n : Nat) :
    ∀ r ∈ Inquiry.runEach host (List.replicate n (check s)) start, OwnWorkload s r.questions := by
  induction n generalizing start with
  | zero => simp [Inquiry.runEach]
  | succ n ih =>
      intro r hr
      rw [List.replicate_succ, Inquiry.runEach] at hr
      rcases List.mem_cons.1 hr with rfl | hr
      · have hallows := (Inquiry.replies_allows_run host (check s) start).2
        exact ownWorkload_of_firstMatch (allows_check_iff.1 hallows)
      · exact ih _ r hr

/-! ## Samples within the threshold -/

theorem exceeds_eq_false {m : Timing.Sample} {micros : Nat} (h : m.elapsedMicros ≤ micros) :
    m.exceeds micros = false :=
  decide_eq_false (Nat.not_lt.2 h)

theorem evaluate_timing_of_le {σ : Type} {host : Host σ} {s : ProbeSettings} {here : σ}
    {m : Timing.Sample}
    (hsample : (Inquiry.run host (Timing.measure s.iterations) here).outcome = .finished (.ok m))
    (hle : m.elapsedMicros ≤ s.thresholdMicros) :
    (Inquiry.run host (Detector.timingAnomaly.evaluate s) here).outcome = .finished false := by
  obtain ⟨t, there, hreplies, hallows⟩ := Inquiry.outcome_run_iff.1 hsample
  have hmeasured := allows_measure_iff.1 hallows
  have hanomalous : anomalous s (.ok m) = false := by
    rw [← exceeds_eq_anomalous (frequency_ne_zero hmeasured rfl), exceeds_eq_false hle]
  have htried : Tried s .timingAnomaly t (.finished false) := by
    rw [← hanomalous]
    exact .timingAnomaly hmeasured
  exact Inquiry.outcome_run_iff.2 ⟨t, there, hreplies, allows_evaluate_iff.2 htried⟩

end ProcessIntegrity
