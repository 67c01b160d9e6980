import Mathlib.Data.List.Basic
import Mathlib.Data.List.Forall2
import ProcessIntegrity.Host.Scripted
import ProcessIntegrity.Proofs.Probe.Boundary
import ProcessIntegrity.Proofs.Probe.Wording
/-!
# Failing open

A query that fails counts as one that says no. A host can be made to conceal its failures: where it
would fail, it gives the negative answer instead. Nobody who only sees verdicts and questions can
tell the two hosts apart; what differs is the log, which says of a failed query that it was
inconclusive (`runEach_conceals`). The two runs are followed side by side along the inquiry,
so `Conceals` relates two inquiries question by question.

A timer that fails is passed over in the same way: it leaves the verdict that a sample within the
threshold leaves (`outcome_check_of_timer`).
-/

namespace ProcessIntegrity

variable {σ τ α β : Type}

/-! ## Hosts that conceal their failures -/

/-- The answer of a query with a failure concealed as the negative answer. Questions to the timer do
not fail: they have no answer at all, and stay as they are. -/
def Query.conceal : (q : Query) → q.Answer → q.Answer
  | .debuggerFlag, .error _ => (.ok false : Except ProbeError Bool)
  | .remoteDebugger, .error _ => (.ok false : Except ProbeError Bool)
  | .raiseException, .error _ => (.ok .handledLocally : Except ProbeError ExceptionOutcome)
  | _, answer => answer

def Host.concealing (host : Host σ) : Host σ where
  reply q s := ((host.reply q s).1.map q.conceal, (host.reply q s).2)

/-- The first list of records is the second without some of its inconclusive ones. -/
inductive WithoutDoubts : List Log.Record → List Log.Record → Prop
  | nil : WithoutDoubts [] []
  | keep (r : Log.Record) {rs rs' : List Log.Record} :
      WithoutDoubts rs rs' → WithoutDoubts (r :: rs) (r :: rs')
  | drop (d : Detector) (e : ProbeError) {rs rs' : List Log.Record} :
      WithoutDoubts rs rs' → WithoutDoubts rs (inconclusiveRecord d e :: rs')

namespace Inquiry

def Run.queries (r : Run σ α) : List Query :=
  r.questions.map Sigma.fst

/-- Two runs that nothing but inconclusive records tells apart; `concealed` has fewer of these. -/
structure Run.SameButDoubts (concealed r : Run σ α) : Prop where
  outcome : concealed.outcome = r.outcome
  queries : concealed.queries = r.queries
  state : concealed.state = r.state
  records : WithoutDoubts concealed.records r.records

/-- The first inquiry does with a concealed answer what the second does with the answer itself, but
for inconclusive records of the second. -/
inductive Conceals : Inquiry α → Inquiry α → Prop
  | done (a : α) : Conceals (done a) (done a)
  | note (r : Log.Record) {x y : Inquiry α} : Conceals x y → Conceals (note r x) (note r y)
  | doubt (d : Detector) (e : ProbeError) {x y : Inquiry α} :
      Conceals x y → Conceals x (note (inconclusiveRecord d e) y)
  | ask (q : Query) {next next' : q.Answer → Inquiry α} :
      (∀ answer, Conceals (next (q.conceal answer)) (next' answer)) →
      Conceals (ask q next) (ask q next')

theorem conceals_bind {x y : Inquiry α} {f g : α → Inquiry β} (h : Conceals x y)
    (hf : ∀ a, Conceals (f a) (g a)) : Conceals (x >>= f) (y >>= g) := by
  induction h with
  | done a => exact hf a
  | note r _ ih => exact .note r ih
  | doubt d e _ ih => exact .doubt d e ih
  | ask q _ ih => exact .ask q ih

theorem conceals_question_bind {q : Query} {f : q.Answer → Inquiry α}
    (hf : ∀ answer, Conceals (f (q.conceal answer)) (f answer)) :
    Conceals (question q >>= f) (question q >>= f) :=
  .ask q hf

/-- A host that conceals its failures runs the first inquiry as the host itself runs the second. -/
theorem run_conceals {x y : Inquiry α} (h : Conceals x y) (host : Host σ) (s : σ) :
    (run host.concealing x s).SameButDoubts (run host y s) := by
  induction h generalizing s with
  | done a => exact ⟨rfl, rfl, rfl, .nil⟩
  | note r _ ih =>
      obtain ⟨houtcome, hqueries, hstate, hrecords⟩ := ih s
      exact ⟨houtcome, hqueries, hstate, .keep r hrecords⟩
  | doubt d e _ ih =>
      obtain ⟨houtcome, hqueries, hstate, hrecords⟩ := ih s
      exact ⟨houtcome, hqueries, hstate, .drop d e hrecords⟩
  | @ask q next next' _ ih =>
      have hconcealed : host.concealing.reply q s =
          ((host.reply q s).1.map q.conceal, (host.reply q s).2) := rfl
      rw [run, run, hconcealed]
      rcases host.reply q s with ⟨reply, s'⟩
      cases reply with
      | finished answer =>
          obtain ⟨houtcome, hqueries, hstate, hrecords⟩ := ih answer s'
          exact ⟨houtcome, congrArg (q :: ·) hqueries, hstate, hrecords⟩
      | crashed message => exact ⟨rfl, rfl, rfl, .nil⟩

theorem runEach_conceals {x y : α → Inquiry β} (h : ∀ a, Conceals (x a) (y a)) (host : Host σ)
    (as : List α) (s : σ) :
    List.Forall₂ Run.SameButDoubts (runEach host.concealing (as.map x) s)
      (runEach host (as.map y) s) := by
  induction as generalizing s with
  | nil => exact .nil
  | cons a as ih =>
      have hfirst := run_conceals (h a) host s
      simp only [List.map_cons, runEach]
      refine .cons hfirst ?_
      rw [hfirst.state]
      exact ih _

end Inquiry

/-! ## The inquiries of a check -/

open Inquiry (Conceals)

def Query.IsTimer : Query → Prop
  | counterFrequency | readCounter | runWorkload _ => True
  | debuggerFlag | remoteDebugger | raiseException => False

theorem Query.conceal_of_isTimer {q : Query} (h : q.IsTimer) (answer : q.Answer) :
    q.conceal answer = answer := by
  cases q with
  | debuggerFlag | remoteDebugger | raiseException => cases h
  | counterFrequency | readCounter | runWorkload _ => rfl

/-- A measurement asks the timer and does nothing else. -/
theorem measure_induction {P : Inquiry (Except ProbeError Timing.Sample) → Prop}
    (hfails : P (pure (.error .timerUnavailable))) (hdone : ∀ m, P (pure (.ok m)))
    (hask : ∀ (q : Query) (f : q.Answer → Inquiry (Except ProbeError Timing.Sample)),
      q.IsTimer → (∀ answer, P (f answer)) → P (Inquiry.question q >>= f))
    (iterations : UInt32) : P (Timing.measure iterations) := by
  unfold Timing.measure
  apply hask .counterFrequency _ trivial
  intro frequency
  cases frequency with
  | none => exact hfails
  | some f =>
      simp only
      split
      · exact hfails
      · apply hask .readCounter _ trivial
        intro start
        cases start with
        | none => exact hfails
        | some a =>
            apply hask (.runWorkload iterations) _ trivial
            intro work
            apply hask .readCounter _ trivial
            intro stop
            cases stop with
            | none => exact hfails
            | some b => exact hdone _

theorem conceals_measure (iterations : UInt32) :
    Conceals (Timing.measure iterations) (Timing.measure iterations) := by
  apply measure_induction (P := fun x => Conceals x x)
  · exact .done _
  · exact fun m => .done _
  · intro q f htimer hf
    apply Inquiry.conceals_question_bind
    intro answer
    rw [q.conceal_of_isTimer htimer]
    exact hf answer

theorem conceals_detect (s : ProbeSettings) : Conceals (Timing.detect s) (Timing.detect s) := by
  apply Inquiry.conceals_bind (conceals_measure s.iterations)
  intro sample
  cases sample with
  | error e => exact .done _
  | ok m => exact .note _ (.done _)

/-- Every failure of a detector's own query is followed by an inconclusive record and by nothing
else, and so is the negative answer without the record. -/
theorem conceals_evaluate (s : ProbeSettings) (d : Detector) :
    Conceals (d.evaluate s) (d.evaluate s) := by
  rw [evaluate_eq]
  cases d with
  | debuggerFlag | remoteDebugger =>
      apply Inquiry.conceals_question_bind
      intro answer
      match answer with
      | .ok true => exact .note _ (.done true)
      | .ok false => exact .done false
      | .error e => exact .doubt _ e (.done false)
  | timingAnomaly =>
      apply Inquiry.conceals_bind (conceals_detect s)
      intro finding
      match finding with
      | .ok true => exact .note _ (.done true)
      | .ok false => exact .done false
      | .error e => exact .note _ (.done false)
  | exceptionInterception =>
      apply Inquiry.conceals_question_bind
      intro answer
      match answer with
      | .ok .intercepted => exact .note _ (.done true)
      | .ok .handledLocally => exact .done false
      | .error e => exact .doubt _ e (.done false)

theorem conceals_firstTriggered (s : ProbeSettings) (ds : List Detector) :
    Conceals (firstTriggered s ds) (firstTriggered s ds) := by
  induction ds with
  | nil => exact .done Verdict.clean
  | cons d later ih =>
      apply Inquiry.conceals_bind (conceals_evaluate s d)
      intro triggered
      cases triggered with
      | true => exact .done d.verdict
      | false => exact ih

theorem conceals_check (s : ProbeSettings) : Conceals (check s) (check s) :=
  conceals_firstTriggered s _

/-! ## Failing timers -/

/-- What becomes of an exception does not depend on what was asked of the timer before. -/
def Host.Steady (host : Host σ) : Prop :=
  ∀ q : Query, q.IsTimer → ∀ here,
    (host.reply .raiseException (host.reply q here).2).1 = (host.reply .raiseException here).1

/-- Two hosts that give the same replies to all questions but those to the timer, in the states that
`alike` takes to be the same. -/
structure Host.SameButTimer (E : Host σ) (F : Host τ) (alike : σ → τ → Prop) : Prop where
  query {here : σ} {there : τ} (q : Query) : q = .debuggerFlag ∨ q = .remoteDebugger →
    alike here there → (E.reply q here).1 = (F.reply q there).1 ∧
      alike (E.reply q here).2 (F.reply q there).2
  exception {here : σ} {there : τ} : alike here there →
    (E.reply .raiseException here).1 = (F.reply .raiseException there).1

/-- A measurement without a result: the host knows no frequency, the counter stands still, or one of
the two readings is missing. -/
inductive TimerFailure (iterations : UInt32) : List Exchange → Prop
  | noFrequency : TimerFailure iterations [⟨.counterFrequency, .finished none⟩]
  | standstill : TimerFailure iterations [⟨.counterFrequency, .finished (some 0)⟩]
  | noStart {f : UInt64} : f ≠ 0 → TimerFailure iterations
      [⟨.counterFrequency, .finished (some f)⟩, ⟨.readCounter, .finished none⟩]
  | noStop {f a work : UInt64} : f ≠ 0 → TimerFailure iterations
      [⟨.counterFrequency, .finished (some f)⟩, ⟨.readCounter, .finished (some a)⟩,
        ⟨.runWorkload iterations, .finished work⟩, ⟨.readCounter, .finished none⟩]

inductive WithinThreshold (s : ProbeSettings) : List Exchange → Prop
  | sample {f a work b : UInt64} : f ≠ 0 →
      (b.toNat - a.toNat) * 1000000 / f.toNat ≤ s.threshold.wholeMicros →
      WithinThreshold s
        [⟨.counterFrequency, .finished (some f)⟩, ⟨.readCounter, .finished (some a)⟩,
          ⟨.runWorkload s.iterations, .finished work⟩, ⟨.readCounter, .finished (some b)⟩]

/-- If a check that starts in the state `start` gets to the timing detector, the measurement there
is of the kind `P`. -/
def Measures (host : Host σ) (s : ProbeSettings) (start : σ) (P : List Exchange → Prop) : Prop :=
  ∀ here, GetsTo host s start .timingAnomaly here → ∃ t there, P t ∧ host.Replies here t there

theorem tried_of_timerFailure {s : ProbeSettings} {t : List Exchange}
    (h : TimerFailure s.iterations t) : Tried s .timingAnomaly t (.finished false) := by
  cases h with
  | noFrequency => exact .timingAnomaly (.noFrequency (.finished none) (by simp))
  | standstill => exact .timingAnomaly (.noFrequency (.finished (some 0)) (by simp))
  | noStart positive => exact .timingAnomaly (.noStart (.finished none) positive (by simp))
  | noStop positive => exact .timingAnomaly (.noStop (.finished none) positive (by simp))

theorem tried_of_withinThreshold {s : ProbeSettings} {t : List Exchange}
    (h : WithinThreshold s t) : Tried s .timingAnomaly t (.finished false) := by
  cases h with
  | @sample f a work b positive within =>
      have hclean : anomalous s (.ok ⟨a, b, f⟩) = false := decide_eq_false (Nat.not_lt.2 within)
      rw [← hclean]
      exact .timingAnomaly (.sample positive)

theorem isTimer_of_tried {s : ProbeSettings} {t : List Exchange} {o : Outcome Bool}
    (h : Tried s .timingAnomaly t o) : ∀ e ∈ t, e.1.IsTimer := by
  cases h with
  | timingAnomaly hmeasured => cases hmeasured <;> simp [Query.IsTimer]

theorem Host.Steady.replies {host : Host σ} (hsteady : host.Steady) {t : List Exchange}
    {here there : σ} (ht : ∀ e ∈ t, e.1.IsTimer) (h : host.Replies here t there) :
    (host.reply .raiseException there).1 = (host.reply .raiseException here).1 := by
  induction t generalizing here with
  | nil => rw [Host.Replies.nil_iff.1 h]
  | cons e t ih =>
      have hlater := (Host.Replies.cons_iff.1 h).2
      have hfirst := hsteady e.1 (ht e List.mem_cons_self) here
      have hrest := ih (fun e he => ht e (List.mem_cons_of_mem _ he)) hlater
      rw [hrest, hfirst]

/-- A host tries a detector in one way only. -/
theorem tried_unique {host : Host σ} {s : ProbeSettings} {d : Detector} {here : σ}
    {t u : List Exchange} {o r : Outcome Bool} {there there' : σ} (ht : Tried s d t o)
    (hreplies : host.Replies here t there) (hu : Tried s d u r)
    (hreplies' : host.Replies here u there') : t = u ∧ o = r ∧ there = there' := by
  have hrun := Inquiry.interview_run_of_allows (allows_evaluate_iff.2 ht) hreplies
  have hrun' := Inquiry.interview_run_of_allows (allows_evaluate_iff.2 hu) hreplies'
  have hsame := hrun.symm.trans hrun'
  simpa using hsame

theorem Host.SameButTimer.replies {E : Host σ} {F : Host τ} {alike : σ → τ → Prop}
    (h : E.SameButTimer F alike) {q : Query} (hq : q = .debuggerFlag ∨ q = .remoteDebugger)
    {reply : Outcome q.Answer} {here next : σ} {there : τ} (halike : alike here there)
    (hreplies : E.Replies here [⟨q, reply⟩] next) :
    ∃ next', F.Replies there [⟨q, reply⟩] next' ∧ alike next next' := by
  obtain ⟨hreply, hnext⟩ := Host.Replies.cons_iff.1 hreplies
  obtain ⟨hsame, hafter⟩ := h.query q hq halike
  rw [Host.Replies.nil_iff.1 hnext]
  exact ⟨_, Host.Replies.cons_iff.2 ⟨hsame.symm.trans hreply, .nil _⟩, hafter⟩

theorem before_timingAnomaly {s : ProbeSettings} {earlier later : List Detector}
    (h : activeDetectors s = earlier ++ .timingAnomaly :: later) :
    earlier = [.debuggerFlag, .remoteDebugger] := by
  have hbefore : Detector.timingAnomaly ∉ [Detector.debuggerFlag, .remoteDebugger] := by simp
  have hbehind : Detector.timingAnomaly ∉
      if s.exceptionCheck then [Detector.exceptionInterception] else [] := by split <;> simp
  exact ((List.append_cons_inj_of_notMem hbefore hbehind).1 h).1.symm

theorem getsTo_timingAnomaly_iff {host : Host σ} {s : ProbeSettings} {start here : σ} :
    GetsTo host s start .timingAnomaly here ↔
      ∃ t, Passed s [.debuggerFlag, .remoteDebugger] t ∧ host.Replies start t here := by
  constructor
  · intro h
    obtain ⟨earlier, later, t, hsplit, hpassed, hreplies⟩ := h
    rw [before_timingAnomaly hsplit] at hpassed
    exact ⟨t, hpassed, hreplies⟩
  · intro h
    obtain ⟨t, hpassed, hreplies⟩ := h
    exact ⟨[.debuggerFlag, .remoteDebugger], _, t, rfl, hpassed, hreplies⟩

/-! ### Two hosts side by side -/

/-- Whatever the first host makes of the detectors, the second makes of them too. -/
def Follows (F : Host τ) (there : τ) (E : Host σ) (here : σ) (s : ProbeSettings)
    (ds : List Detector) : Prop :=
  ∀ t o last, FirstMatch s ds t o → E.Replies here t last →
    ∃ u last', FirstMatch s ds u o ∧ F.Replies there u last'

section

variable {E : Host σ} {F : Host τ} {alike : σ → τ → Prop} {s : ProbeSettings} {here : σ} {there : τ}

theorem follows_nil : Follows F there E here s [] := by
  intro t o last hmatch _
  cases hmatch
  exact ⟨[], there, .none, .nil there⟩

theorem follows_cons {d : Detector} {later : List Detector}
    (h : ∀ t o next, Tried s d t o → E.Replies here t next →
      ∃ u next', Tried s d u o ∧ F.Replies there u next' ∧
        (o = .finished false → Follows F next' E next s later)) :
    Follows F there E here s (d :: later) := by
  intro t o last hmatch hreplies
  cases hmatch with
  | triggers htried =>
      obtain ⟨u, next', htried', hreplies', _⟩ := h _ _ _ htried hreplies
      exact ⟨u, next', .triggers htried', hreplies'⟩
  | crashes htried =>
      obtain ⟨u, next', htried', hreplies', _⟩ := h _ _ _ htried hreplies
      exact ⟨u, next', .crashes htried', hreplies'⟩
  | passes htried hlater =>
      obtain ⟨next, hfirst, hrest⟩ := Host.Replies.append_iff.1 hreplies
      obtain ⟨u, next', htried', hfirst', hfollows⟩ := h _ _ _ htried hfirst
      obtain ⟨v, last', hlater', hrest'⟩ := hfollows rfl _ _ _ hlater hrest
      exact ⟨u ++ v, last', .passes htried' hlater',
        Host.Replies.append_iff.2 ⟨next', hfirst', hrest'⟩⟩

theorem follows_exception
    (h : (F.reply .raiseException there).1 = (E.reply .raiseException here).1) :
    Follows F there E here s [.exceptionInterception] := by
  apply follows_cons
  intro t o next htried hreplies
  cases htried with
  | exceptionInterception reply =>
      have hreply := (Host.Replies.cons_iff.1 hreplies).1
      exact ⟨_, _, .exceptionInterception reply,
        Host.Replies.cons_iff.2 ⟨h.trans hreply, .nil _⟩, fun _ => follows_nil⟩

/-- A timer that fails in the first host and does not trigger in the second leaves both where the
exception decides. -/
theorem follows_timing (hE : E.Steady) (hF : F.Steady) (h : E.SameButTimer F alike)
    (halike : alike here there)
    (hfails : ∃ t next, TimerFailure s.iterations t ∧ E.Replies here t next)
    (hwithin : ∃ u next', WithinThreshold s u ∧ F.Replies there u next') :
    Follows F there E here s
      (.timingAnomaly :: if s.exceptionCheck then [.exceptionInterception] else []) := by
  obtain ⟨v, last, hv, hlast⟩ := hfails
  obtain ⟨u, next', hu, hnext'⟩ := hwithin
  have hfailed := tried_of_timerFailure hv
  have hpassed := tried_of_withinThreshold hu
  apply follows_cons
  intro t o next htried hnext
  -- A host tries a detector in one way only, so what was tried here is the failing timer.
  obtain ⟨rfl, rfl, rfl⟩ := tried_unique htried hnext hfailed hlast
  refine ⟨u, next', hpassed, hnext', fun _ => ?_⟩
  have hsteadyE := hE.replies (isTimer_of_tried htried) hnext
  have hsteadyF := hF.replies (isTimer_of_tried hpassed) hnext'
  split
  · apply follows_exception
    rw [hsteadyE, hsteadyF, h.exception halike]
  · exact follows_nil

theorem follows_check (hE : E.Steady) (hF : F.Steady) (h : E.SameButTimer F alike)
    (halike : alike here there) (hfails : Measures E s here (TimerFailure s.iterations))
    (hwithin : Measures F s there (WithinThreshold s)) :
    Follows F there E here s (activeDetectors s) := by
  apply follows_cons
  intro t o next htried hnext
  cases htried with
  | debuggerFlag reply =>
    obtain ⟨next', hnext', halike⟩ := h.replies (.inl rfl) halike hnext
    refine ⟨_, next', .debuggerFlag reply, hnext', fun hflag => ?_⟩
    apply follows_cons
    intro u r last htried hlast
    cases htried with
    | remoteDebugger reply' =>
      obtain ⟨last', hlast', halike⟩ := h.replies (.inr rfl) halike hlast
      refine ⟨_, last', .remoteDebugger reply', hlast', fun hremote => ?_⟩
      have hpassed : Passed s [.debuggerFlag, .remoteDebugger]
          ([⟨.debuggerFlag, reply⟩] ++ ([⟨.remoteDebugger, reply'⟩] ++ [])) :=
        .cons (hflag ▸ .debuggerFlag reply) (.cons (hremote ▸ .remoteDebugger reply') .nil)
      -- Both hosts got past both queries with the same replies, so both are at the timer now.
      refine follows_timing hE hF h halike (hfails last ?_) (hwithin last' ?_)
      · exact getsTo_timingAnomaly_iff.2
          ⟨_, hpassed, Host.Replies.append_iff.2 ⟨next, hnext, hlast⟩⟩
      · exact getsTo_timingAnomaly_iff.2
          ⟨_, hpassed, Host.Replies.append_iff.2 ⟨next', hnext', hlast'⟩⟩

/-- A failing timer leaves the verdict that a sample within the threshold leaves. -/
theorem outcome_check_of_timer (hE : E.Steady) (hF : F.Steady) (h : E.SameButTimer F alike)
    (halike : alike here there) (hfails : Measures E s here (TimerFailure s.iterations))
    (hwithin : Measures F s there (WithinThreshold s)) :
    (Inquiry.run F (check s) there).outcome = (Inquiry.run E (check s) here).outcome := by
  obtain ⟨hreplies, hallows⟩ := Inquiry.replies_allows_run E (check s) here
  obtain ⟨u, last', hmatch, hreplies'⟩ :=
    follows_check hE hF h halike hfails hwithin _ _ _ (allows_check_iff.1 hallows) hreplies
  exact Inquiry.outcome_run_iff.2 ⟨u, last', hreplies', allows_check_iff.2 hmatch⟩

end

/-- Whether queries fail or say no cannot be told from verdicts and questions, over any number of
successive checks; in the log the inconclusive records are all that tells it. Nor can it be told
from the verdict of a check whether its timer failed or took a sample within the threshold, on two
hosts that are otherwise alike and whose exceptions do not depend on the timer. -/
theorem failing_open {σ τ : Type} (host : Host σ) (start : σ) (calls : List ProbeSettings)
    (E : Host σ) (F : Host τ) (s : ProbeSettings) :
    List.Forall₂ Inquiry.Run.SameButDoubts
      (Inquiry.runEach host.concealing (calls.map check) start)
      (Inquiry.runEach host (calls.map check) start) ∧
    ∀ (alike : σ → τ → Prop) (here : σ) (there : τ), E.Steady → F.Steady →
      E.SameButTimer F alike → alike here there →
      Measures E s here (TimerFailure s.iterations) → Measures F s there (WithinThreshold s) →
      (Inquiry.run F (check s) there).outcome = (Inquiry.run E (check s) here).outcome := by
  constructor
  · exact Inquiry.runEach_conceals conceals_check host calls start
  · intro alike here there hE hF hsame halike hfails hwithin
    exact outcome_check_of_timer hE hF hsame halike hfails hwithin

/-! ### A host of which every query fails -/

/-- Scripts by which both queries and the timer fail, and the exception is intercepted. -/
def failingScripts : Host.Scripts where
  debuggerFlag := ⟨.finished (.error (.queryFailed "debugger_flag" .permissionDenied)), []⟩
  remoteDebugger := ⟨.finished (.error (.unsupported "remote_debugger")), []⟩
  frequency := ⟨.finished none, []⟩
  exception := ⟨.finished (.ok .intercepted), []⟩

/-- The same with a timer that takes a sample just at the threshold. -/
def promptScripts : Host.Scripts :=
  { failingScripts with
    frequency := ⟨.finished (some 1000000), []⟩
    counter := ⟨.finished (some 7), [.finished (some 507)]⟩ }

/-- The same with a sample of a microsecond more. -/
def delayedScripts : Host.Scripts :=
  { promptScripts with counter := ⟨.finished (some 7), [.finished (some 508)]⟩ }

def SameQueries (a b : Host.Scripts) : Prop :=
  a.debuggerFlag = b.debuggerFlag ∧ a.remoteDebugger = b.remoteDebugger ∧
    a.exception = b.exception

theorem steady_scripted : Host.scripted.Steady := by
  intro q hq here
  cases q with
  | debuggerFlag | remoteDebugger | raiseException => cases hq
  | counterFrequency | readCounter | runWorkload k => rfl

theorem sameButTimer_scripted : Host.scripted.SameButTimer Host.scripted SameQueries where
  query := by
    rintro here there q (rfl | rfl) ⟨hflag, hremote, hexception⟩
    · simp [Host.scripted, SameQueries, hflag, hremote, hexception]
    · simp [Host.scripted, SameQueries, hflag, hremote, hexception]
  exception := by
    intro here there h
    simp [Host.scripted, h.2.2]

theorem exchanges_of_passed_queries {s : ProbeSettings} {t : List Exchange}
    (h : Passed s [.debuggerFlag, .remoteDebugger] t) :
    ∃ reply reply', t = [⟨.debuggerFlag, reply⟩, ⟨.remoteDebugger, reply'⟩] := by
  cases h with
  | cons hflag hpassed =>
    cases hpassed with
    | cons hremote hpassed =>
      generalize Outcome.finished false = o at hflag
      generalize Outcome.finished false = o' at hremote
      cases hflag
      cases hremote
      cases hpassed
      exact ⟨_, _, rfl⟩

/-- A check gets to the timing detector in one state only. -/
theorem state_at_timingAnomaly {host : Host σ} {s : ProbeSettings} {start here : σ}
    (h : GetsTo host s start .timingAnomaly here) :
    here = (host.reply .remoteDebugger (host.reply .debuggerFlag start).2).2 := by
  obtain ⟨t, hpassed, hreplies⟩ := getsTo_timingAnomaly_iff.1 h
  obtain ⟨reply, reply', rfl⟩ := exchanges_of_passed_queries hpassed
  simp only [Host.Replies.cons_iff, Host.Replies.nil_iff] at hreplies
  exact hreplies.2.2

theorem failing_open_scripted :
    let s : ProbeSettings := ⟨true, Settings.defaultThreshold, 3⟩
    List.Forall₂ Inquiry.Run.SameButDoubts
      (Inquiry.runEach Host.scripted.concealing ([s, s].map check) failingScripts)
      (Inquiry.runEach Host.scripted ([s, s].map check) failingScripts) ∧
    (Inquiry.run Host.scripted (check s) promptScripts).outcome =
      (Inquiry.run Host.scripted (check s) failingScripts).outcome ∧
    (Inquiry.run Host.scripted (check s) failingScripts).outcome =
      .finished .exceptionIntercepted ∧
    (Inquiry.run Host.scripted (check s) delayedScripts).outcome = .finished .timingAnomaly := by
  intro s
  obtain ⟨hconcealing, htimer⟩ :=
    failing_open Host.scripted failingScripts [s, s] Host.scripted Host.scripted s
  refine ⟨hconcealing, ?_, rfl, by decide +kernel⟩
  apply htimer SameQueries failingScripts promptScripts steady_scripted steady_scripted
    sameButTimer_scripted ⟨rfl, rfl, rfl⟩
  · intro here hgets
    rw [state_at_timingAnomaly hgets]
    exact ⟨_, _, .noFrequency, .cons rfl (.nil _)⟩
  · intro here hgets
    rw [state_at_timingAnomaly hgets]
    have hreplies : Host.scripted.Replies promptScripts
        [⟨.counterFrequency, .finished (some 1000000)⟩, ⟨.readCounter, .finished (some 7)⟩,
          ⟨.runWorkload s.iterations, .finished (Timing.workload s.iterations)⟩,
          ⟨.readCounter, .finished (some 507)⟩] _ :=
      .cons rfl (.cons rfl (.cons rfl (.cons rfl (.nil _))))
    exact ⟨_, _, .sample (by decide) (by decide), hreplies⟩

end ProcessIntegrity
