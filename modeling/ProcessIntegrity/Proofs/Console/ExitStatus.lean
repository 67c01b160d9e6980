import ProcessIntegrity.Proofs.Console.OneLine
/-!
# What the exit status and the verdict line tell

A run gets ready or it does not. It gets ready if the settings can be loaded and overridden and the
log file can be opened; it fails if one of the three fails, and then it has asked the host nothing
and printed nothing. A run that is ready asks what one check asks, prints the verdict of that check
behind its log, and its status is the code of a verdict that it blocks. On Linux what is printed is
lines in the text as well.
-/

namespace ProcessIntegrity.Console

open Settings (Stop)

variable {σ : Type}

/-! ## Getting ready -/

/-- What loading the settings comes to, by the content of their file. Only a file that does not
exist gives the defaults. -/
inductive Loads (defaults : Settings) : Except IoFailure String → Except Stop Settings → Prop
  | missing : Loads defaults (.error .notFound) (.ok defaults)
  | unreadable {cause : IoFailure} : cause ≠ .notFound →
      Loads defaults (.error cause) (.error (.failed (.io cause)))
  | text (text : String) : Loads defaults (.ok text) (Settings.parse defaults text)

def LogOpens (w : World σ) (s : LogSettings) : Prop :=
  ∀ path, logFile? s = some path → w.tryOpen path = .ok ()

inductive Ready (w : World σ) : Settings → Prop
  | intro {loaded : Settings} : Loads w.build.settings w.content (.ok loaded) →
      (loaded.override w.env).result = .ok () →
      LogOpens w (loaded.override w.env).settings.logging →
      Ready w (loaded.override w.env).settings

inductive Fails (w : World σ) : Prop
  | loading {why : Settings.Failure} :
      Loads w.build.settings w.content (.error (.failed why)) → Fails w
  | overriding {loaded : Settings} {why : Settings.Failure} :
      Loads w.build.settings w.content (.ok loaded) →
      (loaded.override w.env).result = .error (.failed why) → Fails w
  | logging {loaded : Settings} {path : String} {cause : IoFailure} :
      Loads w.build.settings w.content (.ok loaded) →
      (loaded.override w.env).result = .ok () →
      logFile? (loaded.override w.env).settings.logging = some path →
      w.tryOpen path = .error cause → Fails w

inductive Crashes (w : World σ) : Prop
  | loading {message : String} :
      Loads w.build.settings w.content (.error (.crashed message)) → Crashes w
  | overriding {loaded : Settings} {message : String} :
      Loads w.build.settings w.content (.ok loaded) →
      (loaded.override w.env).result = .error (.crashed message) → Crashes w

theorem loads_iff {defaults : Settings} (path : String) {content : Except IoFailure String}
    {r : Except Stop Settings} :
    Loads defaults content r ↔ (Settings.loadOrDefault defaults path content).result = r := by
  cases content with
  | ok text =>
      have hresult : (Settings.loadOrDefault defaults path (.ok text)).result =
          Settings.parse defaults text := by
        simp only [Settings.loadOrDefault, Settings.load]
        cases Settings.parse defaults text <;> rfl
      rw [hresult]
      constructor
      · intro h
        cases h
        rfl
      · intro h
        exact h ▸ .text text
  | error cause =>
      by_cases hmissing : cause = .notFound
      · subst hmissing
        constructor
        · intro h
          cases h with
          | missing => rfl
          | unreadable hcause => exact absurd rfl hcause
        · intro h
          exact h ▸ .missing
      · have hresult : (Settings.loadOrDefault defaults path (.error cause)).result =
            .error (.failed (.io cause)) := by
          rw [Settings.loadOrDefault]
          · rfl
          · exact fun h => hmissing (Except.error.inj h)
        rw [hresult]
        constructor
        · intro h
          cases h with
          | missing => exact absurd rfl hmissing
          | unreadable _ => rfl
        · intro h
          exact h ▸ .unreadable hmissing

section Configure

variable {build : Build} {path : String} {content : Except IoFailure String}
  {env : Settings.Environment} {loaded : Settings} {stop : Stop}

theorem configure_of_not_loaded
    (h : (Settings.loadOrDefault build.settings path content).result = .error stop) :
    configure build path content env = .error (halt s!"loading {path}" stop) := by
  simp only [configure, h]

theorem configure_of_not_overridden
    (h : (Settings.loadOrDefault build.settings path content).result = .ok loaded)
    (hresult : (loaded.override env).result = .error stop) :
    configure build path content env =
      .error (halt "applying NATIVE_GUARD_* overrides" stop) := by
  simp only [configure, h, hresult]

theorem configure_of_overridden
    (h : (Settings.loadOrDefault build.settings path content).result = .ok loaded)
    (hresult : (loaded.override env).result = .ok ()) :
    configure build path content env = .ok (loaded.override env).settings := by
  simp only [configure, h, hresult]

end Configure

theorem prepare_eq (w : World σ) :
    prepare w =
      match configure w.build w.path w.content w.env with
      | .error why => .error why
      | .ok s => (openLog w.tryOpen s.logging).map fun _ => s := by
  unfold prepare
  cases configure w.build w.path w.content w.env with
  | error why => rfl
  | ok s =>
      simp only [bind, Except.bind]
      cases openLog w.tryOpen s.logging <;> rfl

theorem openLog_of_opens {w : World σ} {s : LogSettings} (h : LogOpens w s) :
    openLog w.tryOpen s = .ok () := by
  unfold openLog
  cases hpath : logFile? s with
  | none => rfl
  | some path =>
      have hopen : w.tryOpen path = .ok () := h path hpath
      simp only [Option.map_some, hopen]

theorem openLog_of_error {w : World σ} {s : LogSettings} {path : String} {cause : IoFailure}
    (hpath : logFile? s = some path) (hopen : w.tryOpen path = .error cause) :
    openLog w.tryOpen s =
      .error (.refused ⟨"logging", s!"IO Error initializing logger: {cause.message}"⟩) := by
  simp only [openLog, hpath, Option.map_some, hopen]

theorem logOpens_or_error (w : World σ) (s : LogSettings) :
    LogOpens w s ∨ ∃ path cause, logFile? s = some path ∧ w.tryOpen path = .error cause := by
  cases hpath : logFile? s with
  | none => exact .inl (by simp [LogOpens, hpath])
  | some path =>
      cases hopen : w.tryOpen path with
      | ok _ => exact .inl (by simp [LogOpens, hpath, hopen])
      | error cause => exact .inr ⟨path, cause, rfl, hopen⟩

theorem prepare_of_ready {w : World σ} {s : Settings} (h : Ready w s) : prepare w = .ok s := by
  cases h with
  | intro hloads hresult hopens =>
      rw [prepare_eq, configure_of_overridden ((loads_iff w.path).1 hloads) hresult]
      simp only [openLog_of_opens hopens]
      rfl

theorem prepare_of_fails {w : World σ} (h : Fails w) :
    ∃ why, prepare w = .error (.refused why) := by
  rw [prepare_eq]
  cases h with
  | loading hloads =>
      rw [configure_of_not_loaded ((loads_iff w.path).1 hloads)]
      exact ⟨_, rfl⟩
  | overriding hloads hresult =>
      rw [configure_of_not_overridden ((loads_iff w.path).1 hloads) hresult]
      exact ⟨_, rfl⟩
  | logging hloads hresult hpath hopen =>
      rw [configure_of_overridden ((loads_iff w.path).1 hloads) hresult]
      simp only [openLog_of_error hpath hopen]
      exact ⟨_, rfl⟩

theorem prepare_of_crashes {w : World σ} (h : Crashes w) :
    ∃ message, prepare w = .error (.crashed message) := by
  rw [prepare_eq]
  cases h with
  | loading hloads =>
      rw [configure_of_not_loaded ((loads_iff w.path).1 hloads)]
      exact ⟨_, rfl⟩
  | overriding hloads hresult =>
      rw [configure_of_not_overridden ((loads_iff w.path).1 hloads) hresult]
      exact ⟨_, rfl⟩

theorem fails_or_crashes_or_ready (w : World σ) : Fails w ∨ Crashes w ∨ ∃ s, Ready w s := by
  have hloads : ∃ r, Loads w.build.settings w.content r := ⟨_, (loads_iff w.path).2 rfl⟩
  obtain ⟨r, hloads⟩ := hloads
  cases r with
  | error stop =>
      cases stop with
      | failed why => exact .inl (.loading hloads)
      | crashed message => exact .inr (.inl (.loading hloads))
  | ok loaded =>
      cases hresult : (loaded.override w.env).result with
      | error stop =>
          cases stop with
          | failed why => exact .inl (.overriding hloads hresult)
          | crashed message => exact .inr (.inl (.overriding hloads hresult))
      | ok _ =>
          rcases logOpens_or_error w (loaded.override w.env).settings.logging with hopens | hcloses
          · exact .inr (.inr ⟨_, .intro hloads hresult hopens⟩)
          · obtain ⟨path, cause, hpath, hopen⟩ := hcloses
            exact .inl (.logging hloads hresult hpath hopen)

/-! ## The check of a run -/

def enforced (block : Bool) (v : Verdict) : Except Violation Verdict :=
  if block = true ∧ v ≠ .clean then .error ⟨v⟩ else .ok v

def judge (block : Bool) (v : Verdict) : Judgement :=
  ⟨v, if block = true ∧ v ≠ .clean then v.code else 0⟩

theorem allows_enforce_iff {block : Bool} {s : ProbeSettings} {t : List Exchange}
    {o : Outcome (Except Violation Verdict)} :
    Inquiry.Allows (enforce (.ofBlock block) s) t o ↔
      ∃ r, Inquiry.Allows (check s) t r ∧ o = r.map (enforced block) := by
  unfold enforce
  rw [Inquiry.allows_log_bind_iff]
  apply Inquiry.allows_bind_silent_iff
  intro v t o
  by_cases hclean : v = .clean
  · have henforced : enforced block v = .ok v := if_neg fun h => h.2 hclean
    rw [if_pos (Verdict.isClean_iff.2 hclean), Inquiry.allows_log_bind_iff, henforced]
    exact Inquiry.allows_pure_iff
  · rw [if_neg fun h => hclean (Verdict.isClean_iff.1 h), Inquiry.allows_log_bind_iff]
    cases block with
    | true =>
        have henforced : enforced true v = .error ⟨v⟩ := if_pos ⟨rfl, hclean⟩
        rw [henforced]
        exact Inquiry.allows_pure_iff
    | false =>
        have henforced : enforced false v = .ok v := if_neg fun h => Bool.false_ne_true h.1
        rw [henforced]
        exact Inquiry.allows_log_bind_iff.trans Inquiry.allows_pure_iff

def judgementOf : Except Violation Verdict → Judgement
  | .ok v => ⟨v, 0⟩
  | .error violation => ⟨violation.verdict, violation.verdict.code⟩

theorem judgementOf_enforced (block : Bool) (v : Verdict) :
    judgementOf (enforced block v) = judge block v := by
  unfold enforced judge
  by_cases hblocked : block = true ∧ v ≠ .clean
  · rw [if_pos hblocked, if_pos hblocked]
    rfl
  · rw [if_neg hblocked, if_neg hblocked]
    rfl

theorem map_judgementOf (block : Bool) (r : Outcome Verdict) :
    (r.map (enforced block)).map judgementOf = r.map (judge block) := by
  cases r with
  | finished v => exact congrArg Outcome.finished (judgementOf_enforced block v)
  | crashed message => rfl

/-- A session asks what its check asks. -/
theorem allows_session_iff {s : Settings} {t : List Exchange} {o : Outcome Judgement} :
    Inquiry.Allows (session s) t o ↔
      ∃ r, Inquiry.Allows (check s.probe) t r ∧ o = r.map (judge s.block) := by
  have hsession : Inquiry.Allows (session s) t o ↔
      ∃ r, Inquiry.Allows (enforce (.ofBlock s.block) s.probe) t r ∧ o = r.map judgementOf := by
    unfold session
    rw [Inquiry.allows_log_bind_iff]
    apply Inquiry.allows_bind_silent_iff
    intro r t o
    cases r with
    | ok v => exact Inquiry.allows_pure_iff
    | error violation => exact Inquiry.allows_log_bind_iff.trans Inquiry.allows_pure_iff
  rw [hsession]
  simp only [allows_enforce_iff]
  constructor
  · intro h
    obtain ⟨_, ⟨r, hcheck, rfl⟩, ho⟩ := h
    rw [map_judgementOf] at ho
    exact ⟨r, hcheck, ho⟩
  · intro h
    obtain ⟨r, hcheck, ho⟩ := h
    rw [← map_judgementOf] at ho
    exact ⟨_, ⟨r, hcheck, rfl⟩, ho⟩

theorem interview_session (host : Host σ) (s : Settings) (start : σ) :
    let checked := Inquiry.run host (check s.probe) start
    (Inquiry.run host (session s) start).interview =
      ⟨checked.questions, checked.outcome.map (judge s.block), checked.state⟩ := by
  intro checked
  have hboth := Inquiry.replies_allows_run host (check s.probe) start
  exact Inquiry.interview_run_iff.2 ⟨hboth.1, allows_session_iff.2 ⟨_, hboth.2, rfl⟩⟩

/-! ## What a run shows -/

def verdictText (v : Verdict) : String :=
  s!"{v.code} {v.threat}"

/-- A line of the log opens with a bracket, a line that tells a verdict with a digit. -/
theorem programLine_ne_verdictText (r : Log.Record) (stamp : Log.Stamp) (v : Verdict) :
    r.programLine stamp ≠ verdictText v := by
  have hlog : (r.programLine stamp).toList.head? = some '[' := by
    simp only [Log.Record.programLine, String.toList_append, List.append_assoc]
    rfl
  have hverdict : (verdictText v).toList.head? ≠ some '[' := by
    cases v <;> decide
  intro hsame
  rw [hsame] at hlog
  exact hverdict hlog

/-! ## The whole run -/

theorem run_of_error {w : World σ} {why : Halt} (h : prepare w = .error why) (start : σ) :
    run w start = { status := why.status, halt := some why } := by
  simp only [run, h]

theorem run_of_fails {w : World σ} (h : Fails w) (start : σ) :
    ∃ why, run w start = { status := refusedStatus, halt := some (.refused why) } := by
  obtain ⟨why, hprepare⟩ := prepare_of_fails h
  exact ⟨why, run_of_error hprepare start⟩

theorem run_of_ready {w : World σ} {s : Settings} (h : Ready w s) (start : σ) :
    let checked := Inquiry.run w.host (check s.probe) start
    let r := run w start
    r.questions = checked.questions ∧
      (∀ v, checked.outcome = .finished v →
        r.judgement = some (judge s.block v) ∧ r.status = (judge s.block v).status) ∧
      ∀ message, checked.outcome = .crashed message → r.status = crashedStatus := by
  intro checked r
  have hinterview := interview_session w.host s start
  have hquestions : (Inquiry.run w.host (session s) start).questions = checked.questions :=
    congrArg Inquiry.Interview.transcript hinterview
  have houtcome : (Inquiry.run w.host (session s) start).outcome =
      checked.outcome.map (judge s.block) := congrArg Inquiry.Interview.outcome hinterview
  -- With both known, the run depends on nothing but how the check ended.
  have hrun : r = run w start := rfl
  unfold run at hrun
  simp only [prepare_of_ready h, houtcome, hquestions] at hrun
  rw [hrun]
  cases hchecked : checked.outcome with
  | finished v =>
      refine ⟨rfl, fun u hu => ?_, fun message hcrash => ?_⟩
      · rw [Outcome.finished.inj hu]
        exact ⟨rfl, rfl⟩
      · cases hcrash
  | crashed message =>
      refine ⟨rfl, fun u hu => ?_, fun _ _ => rfl⟩
      cases hu

theorem status_judge_ne (block : Bool) (v : Verdict) : (judge block v).status ≠ refusedStatus := by
  cases block <;> cases v <;> decide

theorem status_eq_refused_iff {w : World σ} {start : σ} :
    (run w start).status = refusedStatus ↔ Fails w := by
  constructor
  · intro h
    rcases fails_or_crashes_or_ready w with hfails | hcrashes | ⟨s, hready⟩
    · exact hfails
    · obtain ⟨message, hprepare⟩ := prepare_of_crashes hcrashes
      rw [run_of_error hprepare] at h
      cases h
    · obtain ⟨_, hfinished, hcrashed⟩ := run_of_ready hready start
      cases houtcome : (Inquiry.run w.host (check s.probe) start).outcome with
      | finished v =>
          rw [(hfinished v houtcome).2] at h
          exact absurd h (status_judge_ne s.block v)
      | crashed message =>
          rw [hcrashed message houtcome] at h
          cases h
  · intro h
    obtain ⟨why, hrun⟩ := run_of_fails h start
    rw [hrun]

theorem output_of_judgement {r : Report} {block : Bool} {v : Verdict}
    (h : r.judgement = some (judge block v)) (leadsTo : String → Option Place) (folder : Folder)
    (stamp : Log.Stamp) :
    ∃ log, (r.shownIn leadsTo folder stamp).output = log ++ [verdictText v] ∧
      ∀ line ∈ log, ∀ u, line ≠ verdictText u := by
  have hline : r.verdictLine? = some (verdictText v) := by
    rw [Report.verdictLine?, h]
    rfl
  unfold Report.shownIn
  rw [hline]
  refine ⟨_, rfl, fun line hmem u => ?_⟩
  obtain ⟨record, _, hrecord⟩ := mem_logOutput hmem
  rw [hrecord]
  exact programLine_ne_verdictText record stamp u

/-! ### Hosts that never crash -/

theorem exists_finished {α : Type} {host : Host σ}
    (h : ∀ q s, ∃ answer, (host.reply q s).1 = .finished answer) (x : Inquiry α) (s : σ) :
    ∃ a, (Inquiry.run host x s).outcome = .finished a := by
  induction x generalizing s with
  | done a => exact ⟨a, rfl⟩
  | note r next ih => exact ih s
  | ask q next ih =>
      obtain ⟨answer, hanswer⟩ := h q s
      have hreply : host.reply q s = (.finished answer, (host.reply q s).2) := Prod.ext hanswer rfl
      rw [Inquiry.run, hreply]
      exact ih answer (host.reply q s).2

theorem exists_finished_linux (m : Linux.Machine σ) (q : Query) (s : σ) :
    ∃ answer, ((Linux.host m).reply q s).1 = .finished answer := by
  cases q <;> exact ⟨_, rfl⟩

/-- The status is 1 exactly if the settings cannot be loaded or overridden or the log file cannot be
opened, and then nothing was asked and nothing is printed. Otherwise, unless reading the settings
crashes, the host was asked what one check with these settings asks; the verdict of that check is
printed on one line behind the log, and the status is its code if it is a threat and is blocked. On
Linux there always is a verdict, and nothing that is printed has a line feed within a line. -/
theorem status_and_verdict_line {σ : Type} (w : World σ) (start : σ)
    (leadsTo : String → Option Place) (folder : Folder) (stamp : Log.Stamp) :
    let r := run w start
    let shown := r.shownIn leadsTo folder stamp
    (r.status = 1 ↔ Fails w) ∧
    (Fails w → r.questions = [] ∧ shown.output = []) ∧
    (Fails w ∨ Crashes w ∨ ∃ s, Ready w s) ∧
    (∀ s, Ready w s →
      let checked := Inquiry.run w.host (check s.probe) start
      r.questions = checked.questions ∧
      (∀ v, checked.outcome = .finished v →
        r.status = (if s.block = true ∧ v ≠ .clean then v.code else 0) ∧
        ∃ log, shown.output = log ++ [verdictText v] ∧ ∀ line ∈ log, ∀ u, line ≠ verdictText u) ∧
      ∀ m : Linux.Machine σ, w.host = Linux.host m → ∃ v, checked.outcome = .finished v) ∧
    ∀ m : Linux.Machine σ, w.host = Linux.host m → m.Regular → stamp.Plain →
      ∀ line ∈ shown.output, '\n' ∉ line.toList := by
  intro r shown
  refine ⟨status_eq_refused_iff, fun hfails => ?_, fails_or_crashes_or_ready w,
    fun s hready => ?_, fun m hm hregular hstamp => ?_⟩
  · obtain ⟨why, hrun⟩ := run_of_fails hfails start
    have hr : r = { status := refusedStatus, halt := some (.refused why) } := hrun
    have hshown : shown = r.shownIn leadsTo folder stamp := rfl
    rw [hshown, hr]
    exact ⟨rfl, rfl⟩
  · obtain ⟨hquestions, hfinished, _⟩ := run_of_ready hready start
    refine ⟨hquestions, fun v hv => ?_, fun m hm => ?_⟩
    · obtain ⟨hjudgement, hstatus⟩ := hfinished v hv
      exact ⟨hstatus, output_of_judgement hjudgement leadsTo folder stamp⟩
    · apply exists_finished
      rw [hm]
      exact exists_finished_linux m
  · exact oneLine_output hm hregular hstamp start leadsTo folder

/-- A run in a process that is traced, with this content of the settings file and no variables. -/
def traced (content : Except IoFailure String) : World (List Nat) where
  build := {}
  path := "default.toml"
  content
  env := fun _ => none
  tryOpen := fun _ => .ok ()
  host := Linux.host (Linux.recorded (.ok "TracerPid:\t7\n"))

def anyStamp : Log.Stamp := ⟨"2024-01-01T00:00:00+00:00", "7", "ThreadId(1)"⟩

/-- Without a settings file the run blocks; with one that cannot be read it does not even check. -/
theorem status_and_verdict_line_traced :
    let found := run (traced (.error .notFound)) []
    let refused := run (traced (.error .permissionDenied)) []
    let shown := found.shownIn (fun _ => none) {} anyStamp
    Ready (traced (.error .notFound)) (Build.settings {}) ∧ found.status = 101 ∧
      (∃ log, shown.output = log ++ ["101 Basic Debugger (PEB Flag)"]) ∧
      (∀ line ∈ shown.output, '\n' ∉ line.toList) ∧
      Fails (traced (.error .permissionDenied)) ∧ refused.status = 1 ∧ refused.questions = [] := by
  intro found refused shown
  have hready : Ready (traced (.error .notFound)) (Build.settings {}) :=
    .intro .missing rfl fun path hpath => rfl
  have hfails : Fails (traced (.error .permissionDenied)) := .loading (.unreadable (by decide))
  have hverdict : (Inquiry.run (traced (.error .notFound)).host
      (check (Build.settings {}).probe) []).outcome = .finished .debuggerFlag := by rfl
  have hregular : (Linux.recorded (.ok "TracerPid:\t7\n")).Regular := by
    intro here cause hcause
    cases hcause
  obtain ⟨_, _, _, hfound, hlines⟩ :=
    status_and_verdict_line (traced (.error .notFound)) [] (fun _ => none) {} anyStamp
  obtain ⟨hone, hrefused, _, _, _⟩ :=
    status_and_verdict_line (traced (.error .permissionDenied)) [] (fun _ => none) {} anyStamp
  obtain ⟨hstatus, log, hlog, _⟩ := (hfound _ hready).2.1 _ hverdict
  exact ⟨hready, hstatus, ⟨log, hlog⟩, hlines _ rfl hregular (by decide), hfails, hone.2 hfails,
    (hrefused hfails).1⟩

end ProcessIntegrity.Console
