import ProcessIntegrity.Probe.Enforcement
import ProcessIntegrity.Proofs.Probe.Boundary
import ProcessIntegrity.Proofs.Probe.Wording
/-!
# Enforcement only reports

Enforcing a verdict asks the host nothing. A run that enforces is the run of the bare check, between
a record that opens it and the records that close it, with the verdict wrapped at the end
(`run_enforce`). The two modes wrap a threat differently, and auditing writes one record more; a
crash of the check passes through both. So the modes of calls that follow one another cannot be told
from what the host is asked or from the verdicts (`enforcement_only_reports`).
-/

namespace ProcessIntegrity

variable {σ : Type}

/-! ## What is made of a verdict -/

def Enforcement.sentence : Enforcement → Verdict → Except Violation Verdict
  | .block, v => if v = .clean then .ok v else .error ⟨v⟩
  | .audit, v => .ok v

def sentenced : Except Violation Verdict → Verdict
  | .ok v => v
  | .error violation => violation.verdict

theorem sentenced_sentence (e : Enforcement) (v : Verdict) : sentenced (e.sentence v) = v := by
  cases e with
  | audit => rfl
  | block => by_cases hclean : v = .clean <;> simp [Enforcement.sentence, sentenced, hclean]

theorem map_sentenced (e : Enforcement) (o : Outcome Verdict) :
    (o.map e.sentence).map sentenced = o := by
  cases o with
  | finished v => exact congrArg Outcome.finished (sentenced_sentence e v)
  | crashed message => rfl

/-! ## The run of an enforced check -/

/-- Enforcing runs the bare check, between the record that opens it and those that close it. -/
theorem run_enforce (host : Host σ) (e : Enforcement) (s : ProbeSettings) (start : σ) :
    Inquiry.run host (enforce e s) start =
      let bare := Inquiry.run host (check s) start
      ⟨bare.outcome.map e.sentence, bare.state,
        .noted openingRecord :: bare.events ++ (e.closing bare.outcome).map .noted⟩ := by
  unfold enforce
  rw [Inquiry.run_log_bind, Inquiry.run_bind]
  obtain ⟨outcome, state, events⟩ := Inquiry.run host (check s) start
  cases outcome with
  | finished v => cases e <;> cases v <;> rfl
  | crashed message =>
      have hclosing : e.closing (.crashed message) = [] := by cases e <;> rfl
      simp only [hclosing, List.map_nil, List.append_nil]
      rfl

theorem questions_enforce (host : Host σ) (e : Enforcement) (s : ProbeSettings) (start : σ) :
    (Inquiry.run host (enforce e s) start).questions =
      (Inquiry.run host (check s) start).questions := by
  rw [run_enforce, Inquiry.Run.questions_eq, Inquiry.Run.questions_eq]
  simp

theorem records_enforce (host : Host σ) (e : Enforcement) (s : ProbeSettings) (start : σ) :
    (Inquiry.run host (enforce e s) start).records =
      openingRecord :: (Inquiry.run host (check s) start).records ++
        e.closing (Inquiry.run host (check s) start).outcome := by
  rw [run_enforce, Inquiry.Run.records_eq, Inquiry.Run.records_eq]
  simp

/-! ## The violation -/

theorem blocked_iff {o : Outcome Verdict} {violation : Violation} :
    o.map Enforcement.block.sentence = .finished (.error violation) ↔
      violation.verdict ≠ .clean ∧ o = .finished violation.verdict := by
  cases o with
  | crashed message => simp
  | finished v =>
      obtain ⟨w⟩ := violation
      by_cases hclean : v = .clean
      · subst hclean
        simp [Enforcement.sentence, eq_comm]
      · simp only [Outcome.map_finished, Enforcement.sentence, if_neg hclean,
          Outcome.finished.injEq, Except.error.injEq, Violation.mk.injEq]
        constructor
        · rintro rfl
          exact ⟨hclean, rfl⟩
        · exact fun h => h.2

/-- The text of a violation names its verdict. -/
theorem message_injective {w w' : Violation} (h : w.message = w'.message) : w = w' := by
  obtain ⟨v⟩ := w
  obtain ⟨v'⟩ := w'
  revert h
  cases v <;> cases v' <;> decide +kernel

/-! ## Calls that follow one another -/

def Inquiry.Interview.map {α β : Type} (f : α → β) (v : Inquiry.Interview σ α) :
    Inquiry.Interview σ β :=
  { v with outcome := v.outcome.map f }

theorem interview_enforce (host : Host σ) (e : Enforcement) (s : ProbeSettings) (start : σ) :
    (Inquiry.run host (enforce e s) start).interview.map sentenced =
      (Inquiry.run host (check s) start).interview := by
  have hquestions := questions_enforce host e s start
  have houtcome := map_sentenced e (Inquiry.run host (check s) start).outcome
  simp only [Inquiry.Run.interview, Inquiry.Interview.map, hquestions]
  rw [run_enforce, houtcome]

theorem interviews_enforce (host : Host σ) (calls : List (Enforcement × ProbeSettings))
    (start : σ) :
    (Inquiry.runEach host (calls.map fun c => enforce c.1 c.2) start).map
        (fun r => r.interview.map sentenced) =
      (Inquiry.runEach host ((calls.map Prod.snd).map check) start).map Inquiry.Run.interview := by
  induction calls generalizing start with
  | nil => rfl
  | cons c calls ih =>
      have hstate : (Inquiry.run host (enforce c.1 c.2) start).state =
          (Inquiry.run host (check c.2) start).state := by rw [run_enforce]
      simp only [List.map_cons, Inquiry.runEach]
      rw [interview_enforce, hstate, ih]

/-- Blocking and auditing ask the host what the bare check asks, leave it in the same state and come
to the same verdict, or crash as the check crashes. Auditing lets every verdict pass; blocking makes
an error of a threat, and of nothing else, which gives back the verdict, also by its text. Their
logs are the same but for the record behind a threat that auditing lets pass. In successive calls
every verdict is that of the bare check at its place, whatever the modes are. -/
theorem enforcement_only_reports {σ : Type} (host : Host σ) (s : ProbeSettings) (start : σ)
    (calls : List (Enforcement × ProbeSettings)) :
    let bare := Inquiry.run host (check s) start
    let blocked := Inquiry.run host (enforce .block s) start
    let audited := Inquiry.run host (enforce .audit s) start
    (blocked.questions = bare.questions ∧ audited.questions = bare.questions) ∧
    (blocked.state = bare.state ∧ audited.state = bare.state) ∧
    audited.outcome = bare.outcome.map .ok ∧
    blocked.outcome = bare.outcome.map (fun v => if v = .clean then .ok v else .error ⟨v⟩) ∧
    (∀ violation, blocked.outcome = .finished (.error violation) ↔
      violation.verdict ≠ .clean ∧ bare.outcome = .finished violation.verdict) ∧
    (∀ w w' : Violation, w.message = w'.message ↔ w = w') ∧
    audited.records = blocked.records ++ auditRecords bare.outcome ∧
    (Inquiry.runEach host (calls.map fun c => enforce c.1 c.2) start).map
        (fun r => r.interview.map sentenced) =
      (Inquiry.runEach host ((calls.map Prod.snd).map check) start).map Inquiry.Run.interview := by
  intro bare blocked audited
  have hblocked : blocked.outcome = bare.outcome.map Enforcement.block.sentence := by
    simp only [blocked, run_enforce, bare]
  have haudited : audited.outcome = bare.outcome.map Enforcement.audit.sentence := by
    simp only [audited, run_enforce, bare]
  refine ⟨⟨questions_enforce host .block s start, questions_enforce host .audit s start⟩, ?_,
    haudited, hblocked, fun violation => ?_, fun w w' => ?_, ?_,
    interviews_enforce host calls start⟩
  · simp only [blocked, audited, run_enforce, bare, and_self]
  · rw [hblocked]
    exact blocked_iff
  · exact ⟨message_injective, congrArg Violation.message⟩
  · simp only [blocked, audited, records_enforce, closing_audit, bare]
    rw [List.append_assoc]

end ProcessIntegrity
