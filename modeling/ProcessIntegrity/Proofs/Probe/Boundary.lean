import ProcessIntegrity.Proofs.Probe.FirstMatch
/-!
# The code at the boundary

A check hands a bare number to its caller, and a crash inside is never passed on. What the number
then means is said here by where the check gets to: it gets to a detector when every detector before
it was tried without triggering or crashing. The number is that of the detector that the check gets
to and that triggers; it is zero when the check gets to a crash, or past the last detector. Calls
that follow one another share nothing but the state of the host.
-/

namespace ProcessIntegrity

variable {σ : Type}

/-! ## Codes and verdicts -/

namespace Verdict

theorem ofCode_eq_ok_iff {c : Int32} {v : Verdict} : ofCode c = .ok v ↔ v.code = c := by
  rw [← ofCode?_eq_some_iff, ofCode]
  cases ofCode? c with
  | none => simp
  | some w => simp

theorem unknown_iff {c : Int32} :
    (ofCode c = .error c ∧ describe c = unknownThreat) ↔ ∀ v : Verdict, v.code ≠ c := by
  rw [← ofCode?_eq_none_iff, ofCode, describe]
  cases ofCode? c with
  | none => simp
  | some w => simp

theorem describe_code (v : Verdict) : describe v.code = v.threat := by
  rw [describe, ofCode?_code]
  rfl

theorem code_eq_zero_iff {v : Verdict} : v.code = 0 ↔ v = clean := by
  cases v <;> decide

end Verdict

/-! ## Where a check gets to -/

/-- A check that starts in the state `start` gets to `d` in the state `here`. -/
def GetsTo (host : Host σ) (s : ProbeSettings) (start : σ) (d : Detector) (here : σ) : Prop :=
  ∃ earlier later t, activeDetectors s = earlier ++ d :: later ∧ Passed s earlier t ∧
    host.Replies start t here

def TriedAt (host : Host σ) (s : ProbeSettings) (d : Detector) (here : σ) (o : Outcome Bool) :
    Prop :=
  ∃ t there, Tried s d t o ∧ host.Replies here t there

def Decides (host : Host σ) (s : ProbeSettings) (start : σ) (d : Detector) : Prop :=
  ∃ here, GetsTo host s start d here ∧ TriedAt host s d here (.finished true)

def BreaksDown (host : Host σ) (s : ProbeSettings) (start : σ) (message : String) : Prop :=
  ∃ d here, GetsTo host s start d here ∧ TriedAt host s d here (.crashed message)

def RunsOut (host : Host σ) (s : ProbeSettings) (start : σ) : Prop :=
  ∃ t there, Passed s (activeDetectors s) t ∧ host.Replies start t there

theorem outcome_check_iff {host : Host σ} {s : ProbeSettings} {start : σ} {o : Outcome Verdict} :
    (Inquiry.run host (check s) start).outcome = o ↔
      (RunsOut host s start ∧ o = .finished .clean) ∨
        (∃ d, Decides host s start d ∧ o = .finished d.verdict) ∨
          ∃ message, BreaksDown host s start message ∧ o = .crashed message := by
  rw [Inquiry.outcome_run_iff]
  simp only [allows_check_iff, Policy, firstMatch_iff]
  constructor
  · rintro ⟨t, there, hreplies,
      ⟨hpassed, rfl⟩ | ⟨earlier, d, later, u, v, r, hds, rfl, hpassed, htried, hr, rfl⟩⟩
    · exact .inl ⟨⟨t, there, hpassed, hreplies⟩, rfl⟩
    · obtain ⟨here, hu, hv⟩ := Host.Replies.append_iff.1 hreplies
      have hgets : GetsTo host s start d here := ⟨earlier, later, u, hds, hpassed, hu⟩
      cases r with
      | crashed message =>
          exact .inr (.inr ⟨message, ⟨d, here, hgets, v, there, htried, hv⟩, rfl⟩)
      | finished triggered =>
          cases triggered with
          | false => exact absurd rfl hr
          | true => exact .inr (.inl ⟨d, ⟨here, hgets, v, there, htried, hv⟩, rfl⟩)
  · rintro (⟨⟨t, there, hpassed, hreplies⟩, rfl⟩ |
      ⟨d, ⟨here, ⟨earlier, later, u, hds, hpassed, hu⟩, v, there, htried, hv⟩, rfl⟩ |
      ⟨message, ⟨d, here, ⟨earlier, later, u, hds, hpassed, hu⟩, v, there, htried, hv⟩, rfl⟩)
    · exact ⟨t, there, hreplies, .inl ⟨hpassed, rfl⟩⟩
    · exact ⟨u ++ v, there, Host.Replies.append_iff.2 ⟨here, hu, hv⟩,
        .inr ⟨earlier, d, later, u, v, _, hds, rfl, hpassed, htried, by simp, rfl⟩⟩
    · exact ⟨u ++ v, there, Host.Replies.append_iff.2 ⟨here, hu, hv⟩,
        .inr ⟨earlier, d, later, u, v, _, hds, rfl, hpassed, htried, by simp, rfl⟩⟩

theorem undisturbed_check {host : Host σ} {s : ProbeSettings} {start : σ} {v : Verdict}
    (h : (Inquiry.run host (check s) start).outcome = .finished v) :
    Inquiry.Undisturbed (Inquiry.run host (check s) start).questions :=
  Inquiry.undisturbed_of_allows (Inquiry.replies_allows_run host (check s) start).2 h

/-! ## What the code means -/

theorem code_verdict_ne_zero (d : Detector) : d.verdict.code ≠ 0 := by
  intro h
  exact d.verdict_ne_clean (Verdict.code_eq_zero_iff.1 h)

theorem verdict_injective {d e : Detector} (h : d.verdict = e.verdict) : d = e := by
  revert h
  cases d <;> cases e <;> decide

theorem decides_iff_outcome {host : Host σ} {s : ProbeSettings} {start : σ} {d : Detector} :
    Decides host s start d ↔
      (Inquiry.run host (check s) start).outcome = .finished d.verdict := by
  constructor
  · intro h
    exact outcome_check_iff.2 (.inr (.inl ⟨d, h, rfl⟩))
  · intro h
    rcases outcome_check_iff.1 h with ⟨_, hclean⟩ | ⟨e, hdecides, he⟩ | ⟨_, _, hcrash⟩
    · exact absurd (Outcome.finished.inj hclean) d.verdict_ne_clean
    · rw [verdict_injective (Outcome.finished.inj he)]
      exact hdecides
    · cases hcrash

theorem boundaryCode_eq_zero_iff {host : Host σ} {s : ProbeSettings} {start : σ} :
    (Inquiry.run host (check s) start).outcome.boundaryCode = 0 ↔
      RunsOut host s start ∨ ∃ message, BreaksDown host s start message := by
  constructor
  · intro h
    rcases outcome_check_iff.1 (Eq.refl (Inquiry.run host (check s) start).outcome) with
      ⟨hout, _⟩ | ⟨d, _, hd⟩ | ⟨message, hbreak, _⟩
    · exact .inl hout
    · rw [hd] at h
      exact absurd h (code_verdict_ne_zero d)
    · exact .inr ⟨message, hbreak⟩
  · intro h
    rcases h with hout | ⟨message, hbreak⟩
    · rw [outcome_check_iff.2 (.inl ⟨hout, rfl⟩)]
      rfl
    · rw [outcome_check_iff.2 (.inr (.inr ⟨message, hbreak, rfl⟩))]
      rfl

theorem boundaryCode_ne_zero_iff {host : Host σ} {s : ProbeSettings} {start : σ} :
    (Inquiry.run host (check s) start).outcome.boundaryCode ≠ 0 ↔ ∃ d, Decides host s start d := by
  constructor
  · intro h
    rcases outcome_check_iff.1 (Eq.refl (Inquiry.run host (check s) start).outcome) with
      ⟨_, hclean⟩ | ⟨d, hdecides, _⟩ | ⟨_, _, hcrash⟩
    · exact absurd (by rw [hclean]; rfl) h
    · exact ⟨d, hdecides⟩
    · exact absurd (by rw [hcrash]; rfl) h
  · intro h
    obtain ⟨d, hdecides⟩ := h
    rw [decides_iff_outcome.1 hdecides]
    exact code_verdict_ne_zero d

/-! ## Calls that follow one another -/

def boundaryCodes (host : Host σ) (calls : List ProbeSettings) (start : σ) : List Int32 :=
  (Inquiry.runEach host (calls.map check) start).map fun r => r.outcome.boundaryCode

def boundaryTranscript (host : Host σ) (calls : List ProbeSettings) (start : σ) : List Exchange :=
  ((Inquiry.runEach host (calls.map check) start).map Inquiry.Run.questions).flatten

theorem boundaryCodes_append (host : Host σ) (earlier later : List ProbeSettings) (start : σ) :
    ∃ between, host.Replies start (boundaryTranscript host earlier start) between ∧
      boundaryCodes host (earlier ++ later) start =
        boundaryCodes host earlier start ++ boundaryCodes host later between := by
  obtain ⟨between, hreplies, happend⟩ := Inquiry.runEach_append host (earlier.map check) start
  refine ⟨between, hreplies, ?_⟩
  rw [boundaryCodes, List.map_append, happend, List.map_append]
  rfl

/-- The code of a check is that of the first detector that triggers, if nothing crashes before, and
it gives back the verdict and its label; otherwise it is zero. A code belongs to one verdict, or it
comes back as unknown. Later calls depend on earlier ones, crashed or not, by the state of the host
alone, which is what its own replies have made it. -/
theorem boundary_total_faithful {σ : Type} (host : Host σ) (s : ProbeSettings) (start : σ)
    (c : Int32) (earlier later : List ProbeSettings) :
    let r := Inquiry.run host (check s) start
    (∀ d : Detector, Decides host s start d ↔
      r.outcome.boundaryCode ≠ 0 ∧ r.outcome.boundaryCode = d.verdict.code ∧
        r.outcome = .finished d.verdict ∧ Inquiry.Undisturbed r.questions ∧
        Verdict.ofCode r.outcome.boundaryCode = .ok d.verdict ∧
        Verdict.describe r.outcome.boundaryCode = d.verdict.threat) ∧
    (r.outcome.boundaryCode ≠ 0 ↔ ∃ d, Decides host s start d) ∧
    (r.outcome.boundaryCode = 0 ↔
      RunsOut host s start ∨ ∃ message, BreaksDown host s start message) ∧
    (∀ v, Verdict.ofCode c = .ok v ↔ v.code = c) ∧
    ((Verdict.ofCode c = .error c ∧ Verdict.describe c = Verdict.unknownThreat) ↔
      ∀ v : Verdict, v.code ≠ c) ∧
    ∃ between, host.Replies start (boundaryTranscript host earlier start) between ∧
      boundaryCodes host (earlier ++ later) start =
        boundaryCodes host earlier start ++ boundaryCodes host later between := by
  refine ⟨fun d => ?_, boundaryCode_ne_zero_iff, boundaryCode_eq_zero_iff,
    fun v => Verdict.ofCode_eq_ok_iff, Verdict.unknown_iff,
    boundaryCodes_append host earlier later start⟩
  rw [decides_iff_outcome]
  constructor
  · intro h
    have hundisturbed := undisturbed_check h
    rw [h]
    exact ⟨code_verdict_ne_zero d, rfl, rfl, hundisturbed, Verdict.ofCode_eq_ok_iff.2 rfl,
      Verdict.describe_code d.verdict⟩
  · exact fun h => h.2.2.1

end ProcessIntegrity
