import ProcessIntegrity.Host.Win32.Scripted
import ProcessIntegrity.Proofs.Probe.Ending
/-!
# A check on Windows

What a check makes of the answers of the Win32 functions, whatever these answer and store. Truth
values are words in which everything but zero is yes, a query that failed may have stored anything,
and counters are signed where the probe computes with unsigned words. `Answers.Course` follows a
check through the functions, from one to the next, and says which verdict it comes to; a check
without the exception takes that course and no other (`check_of_answers`).
-/

namespace ProcessIntegrity.Win32

variable {σ : Type}

/-! ## Single answers -/

namespace DebuggerQuery

def Affirms (q : DebuggerQuery) : Prop :=
  q.success ≠ 0 ∧ q.present ≠ 0

instance (q : DebuggerQuery) : Decidable q.Affirms :=
  inferInstanceAs (Decidable (_ ∧ _))

def told (q : DebuggerQuery) : Except ProbeError Bool :=
  if q.success = 0 then .error (.queryFailed "remote_debugger" (.os q.error))
  else .ok (q.present ≠ 0)

theorem affirmed_told (q : DebuggerQuery) : affirmed q.told = decide q.Affirms := by
  unfold told Affirms
  by_cases hfailed : q.success = 0
  · simp [hfailed, affirmed]
  · simp [hfailed, affirmed]

theorem told_of_affirms {q : DebuggerQuery} (h : q.Affirms) : q.told = .ok true := by
  rw [told, if_neg h.1, decide_eq_true h.2]

end DebuggerQuery

namespace CounterQuery

def Ticks (q : CounterQuery) : Prop :=
  q.success ≠ 0 ∧ 0 < q.value.toInt

instance (q : CounterQuery) : Decidable q.Ticks :=
  inferInstanceAs (Decidable (_ ∧ _))

def Reads (q : CounterQuery) : Prop :=
  q.success ≠ 0 ∧ 0 ≤ q.value.toInt

instance (q : CounterQuery) : Decidable q.Reads :=
  inferInstanceAs (Decidable (_ ∧ _))

def Gives (q : CounterQuery) (n : UInt64) : Prop :=
  q.success ≠ 0 ∧ (n.toNat : Int) = q.value.toInt

theorem zero_lt_iff {x : Int64} : 0 < x ↔ 0 < x.toInt :=
  Int64.lt_iff_toInt_lt

theorem zero_le_iff {x : Int64} : 0 ≤ x ↔ 0 ≤ x.toInt :=
  Int64.le_iff_toInt_le

theorem toNat_toUInt64 {x : Int64} (h : 0 ≤ x.toInt) : (x.toUInt64.toNat : Int) = x.toInt := by
  rw [Int64.toNat_toUInt64_of_le (zero_le_iff.2 h)]
  exact Int.toNat_of_nonneg h

theorem gives_toUInt64 {q : CounterQuery} (h : q.Reads) : q.Gives q.value.toUInt64 :=
  ⟨h.1, toNat_toUInt64 h.2⟩

theorem Ticks.reads {q : CounterQuery} (h : q.Ticks) : q.Reads :=
  ⟨h.1, Int.le_of_lt h.2⟩

theorem Gives.reads {q : CounterQuery} {n : UInt64} (h : q.Gives n) : q.Reads := by
  obtain ⟨hsuccess, hn⟩ := h
  exact ⟨hsuccess, by omega⟩

theorem Ticks.ne_zero {q : CounterQuery} {f : UInt64} (h : q.Ticks) (hf : q.Gives f) : f ≠ 0 := by
  rintro rfl
  have hzero : ((0 : UInt64).toNat : Int) = 0 := rfl
  have hpositive := h.2
  have hword := hf.2
  omega

def frequency? (q : CounterQuery) : Option UInt64 :=
  if q.success ≠ 0 ∧ 0 < q.value then some q.value.toUInt64 else none

def reading? (q : CounterQuery) : Option UInt64 :=
  if q.success ≠ 0 ∧ 0 ≤ q.value then some q.value.toUInt64 else none

theorem Gives.eq_toUInt64 {q : CounterQuery} {n : UInt64} (h : q.Gives n) :
    q.value.toUInt64 = n := by
  have hvalue := toNat_toUInt64 h.reads.2
  have hn := h.2
  exact UInt64.toNat_inj.1 (by omega)

theorem frequency?_of_gives {q : CounterQuery} {f : UInt64} (h : q.Ticks) (hf : q.Gives f) :
    q.frequency? = some f := by
  rw [frequency?, if_pos ⟨h.1, zero_lt_iff.2 h.2⟩, hf.eq_toUInt64]

theorem frequency?_of_not_ticks {q : CounterQuery} (h : ¬ q.Ticks) : q.frequency? = none :=
  if_neg fun hused => h ⟨hused.1, zero_lt_iff.1 hused.2⟩

theorem reading?_of_gives {q : CounterQuery} {n : UInt64} (h : q.Gives n) :
    q.reading? = some n := by
  rw [reading?, if_pos ⟨h.1, zero_le_iff.2 h.reads.2⟩, h.eq_toUInt64]

theorem reading?_of_not_reads {q : CounterQuery} (h : ¬ q.Reads) : q.reading? = none :=
  if_neg fun hused => h ⟨hused.1, zero_le_iff.1 hused.2⟩

end CounterQuery

/-! ## The answers of a check -/

structure Answers where
  flag : Int32
  remote : DebuggerQuery
  frequency : CounterQuery
  start : CounterQuery
  stop : CounterQuery
  deriving Repr

/-- The answers that a system gives if it is asked for them one after the other. -/
def Api.answers (api : Api σ) (system : σ) : Answers :=
  let (flag, system) := api.isDebuggerPresent system
  let (remote, system) := api.checkRemoteDebuggerPresent system
  let (frequency, system) := api.queryPerformanceFrequency system
  let (start, system) := api.queryPerformanceCounter system
  let (stop, _) := api.queryPerformanceCounter system
  ⟨flag, remote, frequency, start, stop⟩

namespace Answers

/-- Elapsed whole microseconds, of the numbers as they were stored. -/
def elapsedMicros (a : Answers) : Int :=
  max (a.stop.value.toInt - a.start.value.toInt) 0 * 1000000 / a.frequency.value.toInt

/-- All that is needed to tell the time can be used, and it is strictly more than so many
microseconds. -/
def Slow (a : Answers) (micros : Nat) : Prop :=
  a.frequency.Ticks ∧ a.start.Reads ∧ a.stop.Reads ∧ (micros : Int) < a.elapsedMicros

instance (a : Answers) (micros : Nat) : Decidable (a.Slow micros) :=
  inferInstanceAs (Decidable (_ ∧ _ ∧ _ ∧ _))

/-- The questions of a measurement with their replies, the functions that are called for them, and
the sample. It goes on from one function to the next only with an answer that can be used. -/
inductive Timed (a : Answers) (iterations : UInt32) :
    List Exchange → List Call → Except ProbeError Timing.Sample → Prop
  | noFrequency (hfrequency : ¬ a.frequency.Ticks) :
      Timed a iterations [⟨.counterFrequency, .finished none⟩] [.queryPerformanceFrequency]
        (.error .timerUnavailable)
  | noStart {f : UInt64} (hticks : a.frequency.Ticks) (hfrequency : a.frequency.Gives f)
      (hstart : ¬ a.start.Reads) :
      Timed a iterations
        [⟨.counterFrequency, .finished (some f)⟩, ⟨.readCounter, .finished none⟩]
        [.queryPerformanceFrequency, .queryPerformanceCounter]
        (.error .timerUnavailable)
  | noStop {f m : UInt64} (hticks : a.frequency.Ticks) (hfrequency : a.frequency.Gives f)
      (hstart : a.start.Gives m) (hstop : ¬ a.stop.Reads) :
      Timed a iterations
        [⟨.counterFrequency, .finished (some f)⟩, ⟨.readCounter, .finished (some m)⟩,
          ⟨.runWorkload iterations, .finished (Timing.workload iterations)⟩,
          ⟨.readCounter, .finished none⟩]
        [.queryPerformanceFrequency, .queryPerformanceCounter, .queryPerformanceCounter]
        (.error .timerUnavailable)
  | sample {f m n : UInt64} (hticks : a.frequency.Ticks) (hfrequency : a.frequency.Gives f)
      (hstart : a.start.Gives m) (hstop : a.stop.Gives n) :
      Timed a iterations
        [⟨.counterFrequency, .finished (some f)⟩, ⟨.readCounter, .finished (some m)⟩,
          ⟨.runWorkload iterations, .finished (Timing.workload iterations)⟩,
          ⟨.readCounter, .finished (some n)⟩]
        [.queryPerformanceFrequency, .queryPerformanceCounter, .queryPerformanceCounter]
        (.ok ⟨m, n, f⟩)

/-- What a check without the exception asks and is told, the functions that it calls, and its
verdict. -/
inductive Course (a : Answers) (s : ProbeSettings) :
    List Exchange → List Call → Verdict → Prop
  | flagged (hflag : a.flag ≠ 0) :
      Course a s [⟨.debuggerFlag, .finished (.ok true)⟩] [.isDebuggerPresent] .debuggerFlag
  | attached (hflag : a.flag = 0) (hremote : a.remote.Affirms) :
      Course a s
        [⟨.debuggerFlag, .finished (.ok false)⟩, ⟨.remoteDebugger, .finished (.ok true)⟩]
        [.isDebuggerPresent, .checkRemoteDebuggerPresent currentProcess] .remoteDebugger
  | timed {t : List Exchange} {calls : List Call} {sample : Except ProbeError Timing.Sample}
      (hflag : a.flag = 0) (hremote : ¬ a.remote.Affirms)
      (htimed : a.Timed s.iterations t calls sample) :
      Course a s (unflagged (.ok false) a.remote.told t)
        (.isDebuggerPresent :: .checkRemoteDebuggerPresent currentProcess :: calls)
        (if a.Slow s.threshold.wholeMicros then .timingAnomaly else .clean)

/-! ## There is a course -/

theorem exists_timed (a : Answers) (iterations : UInt32) :
    ∃ t calls sample, a.Timed iterations t calls sample := by
  by_cases hticks : a.frequency.Ticks
  case neg => exact ⟨_, _, _, .noFrequency hticks⟩
  have hfrequency := CounterQuery.gives_toUInt64 hticks.reads
  by_cases hstart : a.start.Reads
  case neg => exact ⟨_, _, _, .noStart hticks hfrequency hstart⟩
  have hstart := CounterQuery.gives_toUInt64 hstart
  by_cases hstop : a.stop.Reads
  case neg => exact ⟨_, _, _, .noStop hticks hfrequency hstart hstop⟩
  exact ⟨_, _, _, .sample hticks hfrequency hstart (CounterQuery.gives_toUInt64 hstop)⟩

theorem exists_course (a : Answers) (s : ProbeSettings) : ∃ t calls v, a.Course s t calls v := by
  by_cases hflag : a.flag = 0
  case neg => exact ⟨_, _, _, .flagged hflag⟩
  by_cases hremote : a.remote.Affirms
  case pos => exact ⟨_, _, _, .attached hflag hremote⟩
  obtain ⟨t, calls, sample, htimed⟩ := a.exists_timed s.iterations
  exact ⟨_, _, _, .timed hflag hremote htimed⟩

/-! ## The policy takes it -/

section

variable {a : Answers} {s : ProbeSettings} {t : List Exchange} {calls : List Call}
  {sample : Except ProbeError Timing.Sample} {v : Verdict}

theorem measured_of_timed {iterations : UInt32} (h : a.Timed iterations t calls sample) :
    Measured iterations t (.finished sample) := by
  cases h with
  | noFrequency _ => exact .noFrequency (.finished none) (by simp)
  | noStart hticks hfrequency _ =>
      exact .noStart (.finished none) (hticks.ne_zero hfrequency) (by simp)
  | noStop hticks hfrequency _ _ =>
      exact .noStop (.finished none) (hticks.ne_zero hfrequency) (by simp)
  | sample hticks hfrequency _ _ => exact .sample (hticks.ne_zero hfrequency)

/-- The words of a sample are the numbers that were stored, so both show the same time. -/
theorem micros_eq {f m n : UInt64} (hfrequency : a.frequency.Gives f) (hstart : a.start.Gives m)
    (hstop : a.stop.Gives n) :
    (((n.toNat - m.toNat) * 1000000 / f.toNat : Nat) : Int) = a.elapsedMicros := by
  have hticks : ((n.toNat - m.toNat : Nat) : Int) =
      max (a.stop.value.toInt - a.start.value.toInt) 0 := by
    have hm := hstart.2
    have hn := hstop.2
    omega
  unfold elapsedMicros
  rw [← hticks, ← hfrequency.2]
  rfl

theorem anomalous_of_timed (h : a.Timed s.iterations t calls sample) :
    anomalous s sample = decide (a.Slow s.threshold.wholeMicros) := by
  symm
  cases h with
  | noFrequency hfrequency => exact decide_eq_false fun hslow => hfrequency hslow.1
  | noStart _ _ hstart => exact decide_eq_false fun hslow => hstart hslow.2.1
  | noStop _ _ _ hstop => exact decide_eq_false fun hslow => hstop hslow.2.2.1
  | @sample f m n hticks hfrequency hstart hstop =>
      have hmicros : s.threshold.wholeMicros < (n.toNat - m.toNat) * 1000000 / f.toNat ↔
          (s.threshold.wholeMicros : Int) < a.elapsedMicros := by
        rw [← micros_eq hfrequency hstart hstop, Int.ofNat_lt]
      apply decide_eq_decide.2
      constructor
      · rintro ⟨-, -, -, hslow⟩
        exact hmicros.2 hslow
      · intro hslow
        exact ⟨hticks, hstart.reads, hstop.reads, hmicros.1 hslow⟩

theorem policy_of_course (hexception : s.exceptionCheck = false) (h : a.Course s t calls v) :
    Policy s t (.finished v) := by
  cases h with
  | flagged _ => exact policy_debuggerFlag rfl
  | attached _ _ => exact policy_remoteDebugger rfl rfl
  | timed _ hremote htimed =>
      have htold : affirmed a.remote.told = false := by
        rw [DebuggerQuery.affirmed_told]
        exact decide_eq_false hremote
      have hmeasured := measured_of_timed htimed
      have hsample := anomalous_of_timed htimed
      by_cases hslow : a.Slow s.threshold.wholeMicros
      · rw [if_pos hslow]
        rw [decide_eq_true hslow] at hsample
        exact policy_timingAnomaly rfl htold hmeasured hsample
      · rw [if_neg hslow]
        rw [decide_eq_false hslow] at hsample
        exact policy_of_passed hexception (passed_timingAnomaly rfl htold hmeasured hsample)

end

end Answers

/-! ## The system answers so -/

def Process.queried (p : Process σ) (api : Api σ) : Process σ :=
  ((p.debuggerFlag api).2.remoteDebugger api).2

section

variable {api : Api σ} {p : Process σ} {s : ProbeSettings} {t : List Exchange} {calls : List Call}

theorem replies_of_timed {iterations : UInt32} {sample : Except ProbeError Timing.Sample}
    (h : (api.answers p.system).Timed iterations t calls sample) :
    ∃ p', (host api).Replies (p.queried api) t p' ∧
      p'.calls = (p.queried api).calls ++ calls := by
  let p₁ := ((p.queried api).counterFrequency api).2
  let p₂ := (p₁.readCounter api).2
  have hfrequency : (host api).reply .counterFrequency (p.queried api) =
      (.finished (api.answers p.system).frequency.frequency?, p₁) := rfl
  have hstart : (host api).reply .readCounter p₁ =
      (.finished (api.answers p.system).start.reading?, p₂) := rfl
  have hstop : (host api).reply .readCounter p₂ =
      (.finished (api.answers p.system).stop.reading?, (p₂.readCounter api).2) := rfl
  have hcalls : (p₂.readCounter api).2.calls = (p.queried api).calls ++
      [.queryPerformanceFrequency, .queryPerformanceCounter, .queryPerformanceCounter] := by
    simp [p₂, p₁, Process.readCounter, Process.counterFrequency, Process.called]
  cases h with
  | noFrequency hnone =>
      rw [CounterQuery.frequency?_of_not_ticks hnone] at hfrequency
      exact ⟨p₁, .cons hfrequency (.nil _), rfl⟩
  | noStart hticks hgives hnone =>
      rw [CounterQuery.frequency?_of_gives hticks hgives] at hfrequency
      rw [CounterQuery.reading?_of_not_reads hnone] at hstart
      exact ⟨p₂, .cons hfrequency (.cons hstart (.nil _)), List.append_assoc ..⟩
  | noStop hticks hgives hm hnone =>
      rw [CounterQuery.frequency?_of_gives hticks hgives] at hfrequency
      rw [CounterQuery.reading?_of_gives hm] at hstart
      rw [CounterQuery.reading?_of_not_reads hnone] at hstop
      exact ⟨_, .cons hfrequency (.cons hstart (.cons rfl (.cons hstop (.nil _)))), hcalls⟩
  | sample hticks hgives hm hn =>
      rw [CounterQuery.frequency?_of_gives hticks hgives] at hfrequency
      rw [CounterQuery.reading?_of_gives hm] at hstart
      rw [CounterQuery.reading?_of_gives hn] at hstop
      exact ⟨_, .cons hfrequency (.cons hstart (.cons rfl (.cons hstop (.nil _)))), hcalls⟩

theorem replies_of_course {v : Verdict} (h : (api.answers p.system).Course s t calls v) :
    ∃ p', (host api).Replies p t p' ∧ p'.calls = p.calls ++ calls := by
  let p₁ := (p.debuggerFlag api).2
  have hflag : (host api).reply .debuggerFlag p =
      (.finished (.ok ((api.answers p.system).flag ≠ 0)), p₁) := rfl
  have hremote : (host api).reply .remoteDebugger p₁ =
      (.finished (api.answers p.system).remote.told, p.queried api) := rfl
  cases h with
  | flagged hset =>
      rw [decide_eq_true hset] at hflag
      exact ⟨p₁, .cons hflag (.nil _), rfl⟩
  | attached hclear haffirms =>
      rw [decide_eq_false (not_not_intro hclear)] at hflag
      rw [DebuggerQuery.told_of_affirms haffirms] at hremote
      exact ⟨p.queried api, .cons hflag (.cons hremote (.nil _)), List.append_assoc ..⟩
  | timed hclear _ htimed =>
      rw [decide_eq_false (not_not_intro hclear)] at hflag
      obtain ⟨p', hreplies, hcalls⟩ := replies_of_timed htimed
      refine ⟨p', .cons hflag (.cons hremote hreplies), ?_⟩
      rw [hcalls]
      simp [Process.queried, Process.debuggerFlag, Process.remoteDebugger, Process.called]

end

/-! ## Checks -/

namespace Answers

section

variable {a : Answers} {s : ProbeSettings} {t : List Exchange} {calls : List Call} {v : Verdict}

theorem Course.debuggerFlag_iff (h : a.Course s t calls v) :
    v = .debuggerFlag ↔ a.flag ≠ 0 := by
  cases h with
  | flagged hflag => simp [hflag]
  | attached hflag _ => simp [hflag]
  | timed hflag _ _ => split <;> simp [hflag]

theorem Course.remoteDebugger_iff (h : a.Course s t calls v) :
    v = .remoteDebugger ↔ a.flag = 0 ∧ a.remote.Affirms := by
  cases h with
  | flagged hflag => simp [hflag]
  | attached hflag hremote => simp [hflag, hremote]
  | timed hflag hremote _ => split <;> simp [hremote]

theorem Course.timingAnomaly_iff (h : a.Course s t calls v) :
    v = .timingAnomaly ↔
      a.flag = 0 ∧ ¬ a.remote.Affirms ∧ a.Slow s.threshold.wholeMicros := by
  cases h with
  | flagged hflag => simp [hflag]
  | attached hflag hremote => simp [hremote]
  | timed hflag hremote _ => simp [hflag, hremote]

theorem Course.clean_iff (h : a.Course s t calls v) :
    v = .clean ↔ a.flag = 0 ∧ ¬ a.remote.Affirms ∧ ¬ a.Slow s.threshold.wholeMicros := by
  cases h with
  | flagged hflag => simp [hflag]
  | attached hflag hremote => simp [hremote]
  | timed hflag hremote _ => simp [hflag, hremote]

/-- A word that a check computes with is a number that was stored, and no negative one. -/
theorem Course.gives_of_mem (h : a.Course s t calls v) :
    (∀ f, ⟨.counterFrequency, .finished (some f)⟩ ∈ t → a.frequency.Ticks ∧ a.frequency.Gives f) ∧
      ∀ n, ⟨.readCounter, .finished (some n)⟩ ∈ t → a.start.Gives n ∨ a.stop.Gives n := by
  cases h with
  | flagged _ => simp
  | attached _ _ => simp
  | timed _ _ htimed =>
      cases htimed with
      | noFrequency _ => simp [unflagged]
      | noStart hticks hfrequency _ => simp [unflagged, hticks, hfrequency]
      | noStop hticks hfrequency hstart _ => simp [unflagged, hticks, hfrequency, hstart]
      | sample hticks hfrequency hstart hstop =>
          simp [unflagged, hticks, hfrequency, hstart, hstop]

end

end Answers

/-- A check without the exception takes the course of the answers, whatever these are: each verdict
has its condition on them, no function of a later detector is called, and nothing is measured with
an answer that cannot be used. -/
theorem check_of_answers (api : Api σ) (s : ProbeSettings) (p : Process σ)
    (hexception : s.exceptionCheck = false) :
    let a := api.answers p.system
    let r := Inquiry.run (host api) (check s) p
    ∃ v calls, r.outcome = .finished v ∧
      (v = .debuggerFlag ↔ a.flag ≠ 0) ∧
      (v = .remoteDebugger ↔ a.flag = 0 ∧ a.remote.Affirms) ∧
      (v = .timingAnomaly ↔
        a.flag = 0 ∧ ¬ a.remote.Affirms ∧ a.Slow s.threshold.wholeMicros) ∧
      (v = .clean ↔ a.flag = 0 ∧ ¬ a.remote.Affirms ∧ ¬ a.Slow s.threshold.wholeMicros) ∧
      a.Course s r.questions calls v ∧ r.state.calls = p.calls ++ calls ∧
      (∀ f, ⟨.counterFrequency, .finished (some f)⟩ ∈ r.questions →
        a.frequency.Ticks ∧ a.frequency.Gives f) ∧
      ∀ n, ⟨.readCounter, .finished (some n)⟩ ∈ r.questions → a.start.Gives n ∨ a.stop.Gives n := by
  intro a r
  obtain ⟨t, calls, v, hcourse⟩ := a.exists_course s
  obtain ⟨p', hreplies, hcalls⟩ := replies_of_course hcourse
  have hallows := allows_check_iff.2 (Answers.policy_of_course hexception hcourse)
  have hrun : r.interview = ⟨t, .finished v, p'⟩ := Inquiry.interview_run_of_allows hallows hreplies
  have hquestions : r.questions = t := congrArg Inquiry.Interview.transcript hrun
  have houtcome : r.outcome = .finished v := congrArg Inquiry.Interview.outcome hrun
  have hstate : r.state = p' := congrArg Inquiry.Interview.state hrun
  rw [← hquestions] at hcourse
  rw [← hstate] at hcalls
  exact ⟨v, calls, houtcome, hcourse.debuggerFlag_iff, hcourse.remoteDebugger_iff,
    hcourse.timingAnomaly_iff, hcourse.clean_iff, hcourse, hcalls, hcourse.gives_of_mem⟩

/-- A query for a debugger that failed and stored a yes, and a counter with ten ticks in a
microsecond that goes on to this value. -/
def staleScripts (stop : Int64) : Scripts where
  checkRemoteDebuggerPresent := ⟨⟨0, 1, 5⟩, []⟩
  queryPerformanceCounter := ⟨⟨1, 90⟩, [⟨1, stop⟩]⟩

/-- After 5010 ticks 501 microseconds have passed. A negative value, which is a large number as a
word without a sign, is none. -/
theorem check_of_answers_stale :
    let s : ProbeSettings := ⟨false, Settings.defaultThreshold, 3⟩
    let slow := Inquiry.run (host scripted) (check s) { system := staleScripts 5100 }
    let negative := Inquiry.run (host scripted) (check s) { system := staleScripts (-1) }
    s.exceptionCheck = false ∧ slow.outcome = .finished .timingAnomaly ∧
      slow.state.calls = [.isDebuggerPresent, .checkRemoteDebuggerPresent currentProcess,
        .queryPerformanceFrequency, .queryPerformanceCounter, .queryPerformanceCounter] ∧
      negative.outcome = .finished .clean := by
  intro s slow negative
  obtain ⟨v, _, hslow, -, -, htiming, -⟩ :=
    check_of_answers scripted s { system := staleScripts 5100 } rfl
  obtain ⟨w, _, hnegative, -, -, -, hclean, -⟩ :=
    check_of_answers scripted s { system := staleScripts (-1) } rfl
  have hv : v = .timingAnomaly := htiming.2 (by decide)
  have hw : w = .clean := hclean.2 (by decide)
  rw [hv] at hslow
  rw [hw] at hnegative
  exact ⟨rfl, hslow, by decide +kernel, hnegative⟩

end ProcessIntegrity.Win32
