import ProcessIntegrity.Console.Shown
import ProcessIntegrity.Host.Linux
import ProcessIntegrity.Proofs.Duration.Rendered
import ProcessIntegrity.Proofs.Probe.FailOpen
import ProcessIntegrity.Proofs.Text.Unsigned
/-!
# Log lines are lines

What a run shows is a list of lines. On Linux no line has a line feed inside, so that a reader of
the text finds the same lines again (`oneLine_output`). The words of a record are fixed; what is put
between them is numbers, names and what the system says of a failure.

An inquiry writes only records of a kind `P` if it does so on every path through it, and the answers
that a host can give are all that has to be looked at on the way (`records_of_writes`).
-/

namespace ProcessIntegrity

variable {σ α β : Type}

def OneLine (s : String) : Prop :=
  '\n' ∉ s.toList

theorem oneLine_of_bytes {s : String} (h : s.toByteArray.data.toList.all (· != 10) = true) :
    OneLine s := by
  intro hmem
  have hbytes : s.toByteArray.data = (s.toList.flatMap String.utf8EncodeChar).toArray := by
    rw [← List.data_toByteArray, ← List.utf8Encode, ← String.toByteArray_ofList,
      String.ofList_toList]
  have hfeed : 10 ∈ s.toByteArray.data.toList := by
    rw [hbytes]
    exact List.mem_flatMap.2 ⟨'\n', hmem, by decide⟩
  exact absurd (List.all_eq_true.1 h 10 hfeed) (by decide)

-- The bytes of a text are at hand, its characters have to be decoded first.
instance (s : String) : Decidable (OneLine s) :=
  if h : s.toByteArray.data.toList.all (· != 10) = true then isTrue (oneLine_of_bytes h)
  else inferInstanceAs (Decidable ('\n' ∉ s.toList))

@[simp] theorem oneLine_append {a b : String} : OneLine (a ++ b) ↔ OneLine a ∧ OneLine b := by
  simp [OneLine]

@[simp] theorem oneLine_toString {s : String} : OneLine (toString s) ↔ OneLine s :=
  Iff.rfl

theorem OneLine.append {a b : String} (ha : OneLine a) (hb : OneLine b) : OneLine (a ++ b) :=
  oneLine_append.2 ⟨ha, hb⟩

/-! ## Numbers and names -/

theorem oneLine_repr (n : Nat) : OneLine n.repr :=
  Text.notMem_repr (by decide) n

theorem oneLine_toString_uint32 (n : UInt32) : OneLine (toString n) := by
  have hdigits : toString n = n.toNat.repr := rfl
  rw [hdigits]
  exact oneLine_repr n.toNat

theorem oneLine_toString_int (i : Int) : OneLine (toString i) := by
  cases i with
  | ofNat n => exact oneLine_repr n
  | negSucc n => exact oneLine_append.2 ⟨by decide, oneLine_repr (n + 1)⟩

theorem oneLine_toString_int32 (code : Int32) : OneLine (toString code) :=
  oneLine_toString_int code.toInt

theorem oneLine_render (s : ProbeSettings) : OneLine s.render := by
  have hon : OneLine (toString s.exceptionCheck) := by cases s.exceptionCheck <;> decide
  have hthreshold : OneLine s.threshold.render :=
    Duration.notMem_render (by decide) (by decide) (by decide) s.threshold
  have hiterations : OneLine (toString s.iterations) := oneLine_toString_uint32 s.iterations
  unfold ProbeSettings.render
  refine .append (.append (.append ?_ hon) ?_)
    (.append (.append (.append (.append ?_ hthreshold) ?_) hiterations) ?_)
  all_goals decide

/-- No text of the system takes up more than one line. -/
theorem oneLine_osText (code : Int32) : OneLine (IoFailure.osText code) := by
  have htexts : ∀ text ∈ IoFailure.osTexts.toList, ∀ t ∈ text, OneLine t := by decide +kernel
  unfold IoFailure.osText
  split
  · next text htext =>
      have hmem : some text ∈ IoFailure.osTexts.toList := by
        split at htext
        · cases htext
        · have hentry := Option.join_eq_some_iff.1 htext
          exact Array.mem_toList_iff.2 (Array.mem_of_getElem? hentry)
      exact htexts _ hmem text (Option.mem_some_self text)
  · exact oneLine_append.2 ⟨by decide, oneLine_toString_int32 code⟩

theorem oneLine_message_os (code : Int32) : OneLine (IoFailure.os code).message := by
  simp only [IoFailure.message, oneLine_append]
  exact ⟨⟨⟨oneLine_osText code, by decide⟩, oneLine_toString_int32 code⟩, by decide⟩

/-! ## What an inquiry writes -/

namespace Inquiry

/-- As long as the host gives admitted answers, only records of the kind `P` are written and the
result is of the kind `post`. -/
inductive Writes (admits : (q : Query) → q.Answer → Prop) (P : Log.Record → Prop)
    (post : α → Prop) : Inquiry α → Prop
  | done {a : α} : post a → Writes admits P post (done a)
  | note {r : Log.Record} {next : Inquiry α} :
      P r → Writes admits P post next → Writes admits P post (note r next)
  | ask {q : Query} {next : q.Answer → Inquiry α} :
      (∀ answer, admits q answer → Writes admits P post (next answer)) →
      Writes admits P post (ask q next)

variable {admits : (q : Query) → q.Answer → Prop} {P : Log.Record → Prop}

theorem writes_bind {mid : α → Prop} {post : β → Prop} {x : Inquiry α} {f : α → Inquiry β}
    (h : Writes admits P mid x) (hf : ∀ a, mid a → Writes admits P post (f a)) :
    Writes admits P post (x >>= f) := by
  induction h with
  | done ha => exact hf _ ha
  | note hr _ ih => exact .note hr ih
  | ask _ ih => exact .ask ih

theorem records_of_writes {post : α → Prop} {x : Inquiry α} (h : Writes admits P post x)
    {host : Host σ} (hhost : ∀ q s answer, (host.reply q s).1 = .finished answer → admits q answer)
    (s : σ) : ∀ r ∈ (run host x s).records, P r := by
  induction h generalizing s with
  | done _ => simp [run, Run.records]
  | note hr _ ih =>
      intro r hmem
      rcases List.mem_cons.1 hmem with rfl | hmem
      · exact hr
      · exact ih s r hmem
  | @ask q next _ ih =>
      have hadmits := hhost q s
      rw [run]
      generalize host.reply q s = r at hadmits
      obtain ⟨reply, s'⟩ := r
      cases reply with
      | finished answer => exact ih answer (hadmits answer rfl) s'
      | crashed message => simp [Run.records]

end Inquiry

/-! ## What a session writes -/

open Inquiry (Writes)

def Telling {α : Type} : Except ProbeError α → Prop
  | .ok _ => True
  | .error e => OneLine e.message

def Query.Tells : (q : Query) → q.Answer → Prop
  | .debuggerFlag, answer => Telling answer
  | .remoteDebugger, answer => Telling answer
  | .raiseException, answer => Telling answer
  | .counterFrequency, _ | .readCounter, _ | .runWorkload _, _ => True

def Log.Record.Plain (r : Log.Record) : Prop :=
  OneLine r.message

instance (r : Log.Record) : Decidable r.Plain :=
  inferInstanceAs (Decidable (OneLine r.message))

theorem plain_triggeredRecord (d : Detector) : (triggeredRecord d).Plain := by
  cases d <;> decide

theorem plain_inconclusiveRecord (d : Detector) {e : ProbeError} (h : OneLine e.message) :
    (inconclusiveRecord d e).Plain := by
  rw [message_eq_words] at h
  cases d <;> exact .append (by decide) h

theorem writes_measure (iterations : UInt32) :
    Writes Query.Tells Log.Record.Plain Telling (Timing.measure iterations) := by
  apply measure_induction
  · exact .done (by decide : OneLine "high-resolution counter unavailable")
  · exact fun _ => .done trivial
  · intro q f _ hf
    exact .ask fun answer _ => hf answer

theorem writes_detect (s : ProbeSettings) :
    Writes Query.Tells Log.Record.Plain Telling (Timing.detect s) := by
  apply Inquiry.writes_bind (writes_measure s.iterations)
  intro sample hsample
  cases sample with
  | error e => exact .done hsample
  | ok m =>
      refine .note ?_ (.done trivial)
      have helapsed := oneLine_repr m.elapsedMicros
      have hthreshold := oneLine_repr s.thresholdMicros
      exact .append (.append (.append (.append (by decide) helapsed) (by decide)) hthreshold)
        (by decide)

theorem writes_inquire (s : ProbeSettings) (d : Detector) :
    Writes Query.Tells Log.Record.Plain Telling (d.inquire s) := by
  cases d with
  | debuggerFlag | remoteDebugger => exact .ask fun _ hanswer => .done hanswer
  | timingAnomaly => exact writes_detect s
  | exceptionInterception =>
      refine .ask fun answer hanswer => .done ?_
      cases answer with
      | error e => exact hanswer
      | ok _ => trivial

theorem writes_evaluate (s : ProbeSettings) (d : Detector) :
    Writes Query.Tells Log.Record.Plain (fun _ => True) (d.evaluate s) := by
  rw [evaluate_eq]
  apply Inquiry.writes_bind (writes_inquire s d)
  intro finding hfinding
  match finding with
  | .ok true => exact .note (plain_triggeredRecord d) (.done trivial)
  | .ok false => exact .done trivial
  | .error e => exact .note (plain_inconclusiveRecord d hfinding) (.done trivial)

theorem writes_check (s : ProbeSettings) :
    Writes Query.Tells Log.Record.Plain (fun _ => True) (check s) := by
  unfold check
  induction Detector.sequence s with
  | nil => exact .done trivial
  | cons d later ih =>
      apply Inquiry.writes_bind (writes_evaluate s d)
      intro triggered _
      cases triggered with
      | true => exact .done trivial
      | false => exact ih

theorem writes_enforce (e : Enforcement) (s : ProbeSettings) :
    Writes Query.Tells Log.Record.Plain (fun _ => True) (enforce e s) := by
  refine .note (by decide) ?_
  apply Inquiry.writes_bind (writes_check s)
  intro v _
  cases v with
  | clean => exact .note (by decide) (.done trivial)
  | debuggerFlag | remoteDebugger | timingAnomaly | exceptionIntercepted =>
      refine .note (by decide) ?_
      cases e with
      | block => exact .done trivial
      | audit => exact .note (by decide) (.done trivial)

theorem oneLine_message (violation : Violation) : OneLine violation.message := by
  obtain ⟨v⟩ := violation
  cases v <;> decide

theorem writes_session (s : Settings) :
    Writes Query.Tells Log.Record.Plain (fun _ => True) (Console.session s) := by
  refine .note (.append (by decide) (oneLine_render s.probe)) ?_
  apply Inquiry.writes_bind (writes_enforce _ s.probe)
  intro result _
  cases result with
  | ok v => exact .done trivial
  | error violation => exact .note (.append (by decide) (oneLine_message violation)) (.done trivial)

/-! ## What a run on Linux shows -/

/-- The status text of the process is only ever withheld by a numbered error of the system, or
because it is not UTF-8. -/
def Linux.Machine.Regular (m : Linux.Machine σ) : Prop :=
  ∀ here cause, (m.status here).1 = .error cause →
    (∃ code, cause = .os code) ∨ cause = .notUtf8

theorem tells_linux {m : Linux.Machine σ} (h : m.Regular) (q : Query) (here : σ) (answer : q.Answer)
    (hreply : ((Linux.host m).reply q here).1 = .finished answer) : q.Tells answer := by
  cases q with
  | counterFrequency | readCounter | runWorkload iterations => trivial
  | remoteDebugger =>
      cases hreply
      exact (by decide : OneLine (ProbeError.unsupported "remote_debugger").message)
  | raiseException =>
      cases hreply
      exact (by decide : OneLine (ProbeError.unsupported "exception_interception").message)
  | debuggerFlag =>
      have hanswer : Linux.debuggerFlag (m.status here).1 = answer := Outcome.finished.inj hreply
      have hstatus := h here
      rw [← hanswer]
      cases hread : (m.status here).1 with
      | ok status => trivial
      | error cause =>
          have hcause : OneLine cause.message := by
            rcases hstatus cause hread with ⟨code, rfl⟩ | rfl
            · exact oneLine_message_os code
            · decide
          exact .append (by decide) hcause

def Log.Stamp.Plain (stamp : Log.Stamp) : Prop :=
  OneLine stamp.time ∧ OneLine stamp.process ∧ OneLine stamp.thread

instance (stamp : Log.Stamp) : Decidable stamp.Plain :=
  inferInstanceAs (Decidable (_ ∧ _ ∧ _))

theorem oneLine_line {r : Log.Record} {stamp : Log.Stamp} (hr : r.Plain) (hstamp : stamp.Plain) :
    OneLine (r.line stamp) := by
  obtain ⟨level, component, message⟩ := r
  obtain ⟨htime, hprocess, hthread⟩ := hstamp
  have hlevel : OneLine level.name := by cases level <;> decide
  have hcomponent : OneLine component.name := by cases component <;> decide
  have hmessage : OneLine message := hr
  simp +decide only [Log.Record.line, oneLine_append, oneLine_toString, htime, hlevel, hcomponent,
    hprocess, hthread, hmessage, and_self]

theorem oneLine_paddedLevel (r : Log.Record) : OneLine r.paddedLevel := by
  have hlevel : OneLine r.level.name := by cases r.level <;> decide
  refine hlevel.append ?_
  simp [OneLine]

theorem oneLine_programLine {r : Log.Record} {stamp : Log.Stamp} (hr : r.Plain)
    (hstamp : stamp.Plain) : OneLine (r.programLine stamp) := by
  have hline := oneLine_line hr hstamp
  obtain ⟨level, component, message⟩ := r
  obtain ⟨htime, hprocess, hthread⟩ := hstamp
  have hlevel := oneLine_paddedLevel ⟨level, component, message⟩
  have hmessage : OneLine message := hr
  unfold Log.Record.programLine
  cases component with
  | program =>
      simp +decide only [oneLine_append, oneLine_toString, htime, hlevel, hprocess, hthread,
        hmessage, and_self]
  | config | prober | timing | integrity =>
      simp +decide only [oneLine_append, oneLine_toString, htime, hlevel, hprocess, hthread,
        hline, and_self]

namespace Console

variable {w : World σ} {m : Linux.Machine σ} {stamp : Log.Stamp}

theorem plain_records (hhost : w.host = Linux.host m) (hm : m.Regular) (start : σ) :
    ∀ r ∈ (run w start).records, r.Plain := by
  intro r hmem
  cases hprepare : prepare w with
  | error why =>
      simp only [run, hprepare] at hmem
      cases hmem
  | ok s =>
      have hkept : r ∈ Log.kept (limitNamed s.logging.level)
          (Inquiry.run w.host (session s) start).records := by
        simp only [run, hprepare] at hmem
        split at hmem <;> exact hmem
      rw [hhost] at hkept
      exact Inquiry.records_of_writes (writes_session s) (tells_linux hm) start r
        (List.mem_of_mem_filter hkept)

theorem mem_logOutput {r : Report} {place : Option Place} {line : String}
    (h : line ∈ r.logOutput stamp place) :
    ∃ record ∈ r.records, line = record.programLine stamp := by
  unfold Report.logOutput Report.logLines at h
  obtain ⟨written, hwritten, hline⟩ := List.mem_flatMap.1 h
  obtain ⟨record, hmem, hrecord⟩ := List.mem_map.1 hwritten
  refine ⟨record, hmem, ?_⟩
  rw [hrecord]
  split at hline <;> simpa using hline

theorem oneLine_judgement (j : Judgement) : OneLine j.line := by
  obtain ⟨v, status⟩ := j
  change OneLine s!"{v.code} {v.threat}"
  cases v <;> decide

/-- On Linux every line that a run shows is one line of the text. -/
theorem oneLine_output (hhost : w.host = Linux.host m) (hm : m.Regular) (hstamp : stamp.Plain)
    (start : σ) (leadsTo : String → Option Place) (folder : Folder) :
    ∀ line ∈ ((run w start).shownIn leadsTo folder stamp).output, OneLine line := by
  intro line hmem
  unfold Report.shownIn at hmem
  rcases List.mem_append.1 hmem with hlog | hverdict
  · obtain ⟨record, hrecord, rfl⟩ := mem_logOutput hlog
    exact oneLine_programLine (plain_records hhost hm start record hrecord) hstamp
  · obtain ⟨j, _, rfl⟩ := Option.map_eq_some_iff.1 (Option.mem_toList.1 hverdict)
    exact oneLine_judgement j

end Console

end ProcessIntegrity
