import ProcessIntegrity.Proofs.Duration.Spelling
import ProcessIntegrity.Proofs.Settings.Changes
/-!
# Where reading settings crashes

Reading settings gives them, or fails and says why, with one exception. A threshold crashes it if
its text begins with spans that tip their total over, and nothing else does: every other step on the
way is checked. A file crashes if it has the right form and such a threshold. Overrides crash if there is
such a threshold and nothing before it is refused.
-/

namespace ProcessIntegrity

namespace Duration

def Overfull (s : List Char) : Prop :=
  ∃ spans rest, Spells s spans rest ∧ TipsOver 0 (amountsOf spans)

theorem readSpans_overfull_iff {s : List Char} :
    readSpans s.length zero ⟨0, s⟩ = .error .carryOverflow ↔ Overfull s :=
  readSpans_crash_iff (Nat.le_refl s.length)

theorem read_crash_iff {s : List Char} : read s = .error .carryOverflow ↔ Overfull s := by
  rw [← readSpans_overfull_iff, read]
  by_cases hzero : s = ['0']
  · have hunit : readSpans 1 zero ⟨0, ['0']⟩ = .error (.unitMissing 0) := rfl
    rw [if_pos hzero, hzero, List.length_singleton, hunit]
    simp
  · rw [if_neg hzero]
    by_cases hblank : s.all Text.isBlank = true
    · rw [if_pos hblank, readSpans_blank (List.all_eq_true.1 hblank)]
      simp
    · rw [if_neg hblank]

end Duration

namespace Settings

open Duration (Overfull)

def Returns {α : Type} (x : Except Stop α) : Prop :=
  (∃ a, x = .ok a) ∨ ∃ why, x = .error (.failed why)

/-- The one crash that reading settings can come to. -/
def overflow : Stop :=
  .crashed Duration.Fault.carryOverflow.message

/-- Reading crashes by an overflow exactly if `p` holds, and otherwise it returns. -/
structure CrashesIff {α : Type} (x : Except Stop α) (p : Prop) : Prop where
  crashes : x = .error overflow ↔ p
  returns : Returns x ↔ ¬ p

theorem crashesIff_of {α : Type} {x : Except Stop α} {p : Prop}
    (h : ∀ message, x = .error (.crashed message) ↔ .crashed message = overflow ∧ p) :
    CrashesIff x p := by
  have hcrash : x = .error overflow ↔ p := (h _).trans (and_iff_right rfl)
  refine ⟨hcrash, ?_⟩
  rw [← hcrash]
  constructor
  · intro hreturns hoverflow
    rw [hoverflow] at hreturns
    rcases hreturns with ⟨a, ha⟩ | ⟨why, hwhy⟩
    · cases ha
    · cases hwhy
  · intro hnot
    cases x with
    | ok a => exact .inl ⟨a, rfl⟩
    | error stop =>
        cases stop with
        | failed why => exact .inr ⟨why, rfl⟩
        | crashed message =>
            have hsame := ((h message).1 rfl).1
            rw [hsame] at hnot
            exact absurd rfl hnot

/-! ## Single values -/

theorem readThreshold_crash_iff {raw message : String} :
    readThreshold raw = .error (.crashed message) ↔
      .crashed message = overflow ∧ Overfull (Text.trim raw.toList) := by
  rw [← Duration.read_crash_iff, readThreshold]
  cases hread : Duration.read (Text.trim raw.toList) with
  | ok d =>
      simp only
      split
      · simp [refused]
      · simp
  | error fault => cases fault <;> simp [overflow, eq_comm]

theorem checkIterations_ne_crash (key : String) (n : UInt32) (message : String) :
    checkIterations key n ≠ .error (.crashed message) := by
  rw [checkIterations]
  split
  · simp [refused]
  · simp

theorem readIterations_ne_crash (key raw message : String) :
    readIterations key raw ≠ .error (.crashed message) := by
  rw [readIterations]
  split
  · exact checkIterations_ne_crash _ _ _
  · simp [refused]

theorem readBool_ne_crash (key raw message : String) :
    readBool key raw ≠ .error (.crashed message) := by
  rw [readBool]
  split
  · simp
  · simp [refused]

/-! ## Changes with one threshold among them -/

def Crashless (changes : List (Except Stop Change)) : Prop :=
  ∀ message, .error (.crashed message) ∉ changes

theorem crashless_present {α : Type} {field : Option α} {read : α → Except Stop Change}
    (h : ∀ a message, read a ≠ .error (.crashed message)) : Crashless (present field read) := by
  intro message hmem
  obtain ⟨a, _, ha⟩ := mem_present_iff.1 hmem
  exact h a message ha

theorem crashless_append {changes later : List (Except Stop Change)} (h : Crashless changes)
    (hlater : Crashless later) : Crashless (changes ++ later) := by
  intro message hmem
  rcases List.mem_append.1 hmem with hmem | hmem
  · exact h message hmem
  · exact hlater message hmem

/-- Only the threshold crashes, and only when nothing before it is refused. -/
theorem change_crash_iff {s : Settings} {first rest : List (Except Stop Change)}
    {threshold : Option String} (hfirst : Crashless first) (hrest : Crashless rest)
    {message : String} :
    (change s (first ++ (present threshold (fun raw => .threshold <$> readThreshold raw) ++
        rest))).result = .error (.crashed message) ↔
      (∀ c ∈ first, ∃ d, c = .ok d) ∧
        ∃ raw, threshold = some raw ∧ readThreshold raw = .error (.crashed message) := by
  induction first generalizing s with
  | nil =>
      rw [List.nil_append]
      constructor
      · intro h
        refine ⟨by simp, ?_⟩
        rcases List.mem_append.1 (mem_of_change_error h) with hmem | hmem
        · obtain ⟨raw, hraw, hcrash⟩ := mem_present_iff.1 hmem
          exact ⟨raw, hraw, map_eq_error_iff.1 hcrash⟩
        · exact absurd hmem (hrest message)
      · intro h
        obtain ⟨_, raw, hraw, hcrash⟩ := h
        rw [hraw, present, Option.map_some, map_eq_error_iff.2 hcrash]
        rfl
  | cons c first ih =>
      have hlater : Crashless first := fun m hm => hfirst m (List.mem_cons_of_mem _ hm)
      rw [List.cons_append, List.forall_mem_cons]
      cases c with
      | error stop =>
          rw [change]
          constructor
          · intro h
            rw [Except.error.inj h] at hfirst
            exact absurd List.mem_cons_self (hfirst message)
          · intro h
            obtain ⟨d, hd⟩ := h.1.1
            cases hd
      | ok c =>
          rw [change, ih hlater]
          have hok : ∃ d, (Except.ok c : Except Stop Change) = .ok d := ⟨c, rfl⟩
          rw [and_iff_right hok]

/-! ## Files and overrides -/

theorem settings_crash_iff {c : Changed} {message : String} :
    (c.result.map fun _ => c.settings) = .error (.crashed message) ↔
      c.result = .error (.crashed message) := by
  cases c.result with
  | error stop => simp [Except.map]
  | ok _ => simp [Except.map]

theorem change_changes_crash_iff {s : Settings} {asked : ProbeSection} {message : String} :
    (change s asked.changes).result = .error (.crashed message) ↔
      ∃ raw, asked.threshold = some raw ∧ readThreshold raw = .error (.crashed message) := by
  have hfirst : Crashless (present asked.exceptionCheck fun on => .ok (.exceptionCheck on)) :=
    crashless_present fun on message => by simp
  have hiterations : Crashless (present asked.iterations fun n =>
      .iterations <$> checkIterations "probe.workload_iterations" n) :=
    crashless_present fun n message h =>
      checkIterations_ne_crash _ _ _ (map_eq_error_iff.1 h)
  have hblock : Crashless (present asked.block fun on => .ok (.block on)) :=
    crashless_present fun on message => by simp
  rw [ProbeSection.changes, List.append_assoc, List.append_assoc,
    change_crash_iff hfirst (crashless_append hiterations hblock)]
  refine and_iff_right fun c hc => ?_
  obtain ⟨on, _, rfl⟩ := mem_present_iff.1 hc
  exact ⟨_, rfl⟩

theorem parse_crash_iff {defaults : Settings} {text message : String} :
    parse defaults text = .error (.crashed message) ↔
      ∃ document file raw, Toml.read? text.toList = some document ∧
        File.ofDocument document = .ok file ∧ file.probe.threshold = some raw ∧
        readThreshold raw = .error (.crashed message) := by
  rw [parse]
  cases hdocument : Toml.read? text.toList with
  | none => simp
  | some document =>
      cases hfile : File.ofDocument document with
      | error fault => simp [hfile]
      | ok file =>
          simp only [hfile]
          rw [settings_crash_iff, change_changes_crash_iff]
          constructor
          · intro h
            obtain ⟨raw, hraw, hcrash⟩ := h
            exact ⟨document, file, raw, rfl, hfile, hraw, hcrash⟩
          · intro h
            obtain ⟨_, _, raw, hsame, hfile', hraw, hcrash⟩ := h
            cases hsame
            rw [hfile] at hfile'
            cases hfile'
            exact ⟨raw, hraw, hcrash⟩

theorem read_ne_crash {o : Override} (ho : o ≠ .threshold) (raw message : String) :
    o.read raw ≠ .error (.crashed message) := by
  intro h
  cases o with
  | exceptionCheck => exact readBool_ne_crash _ _ _ (map_eq_error_iff.1 h)
  | threshold => exact ho rfl
  | iterations => exact readIterations_ne_crash _ _ _ (map_eq_error_iff.1 h)
  | block => exact readBool_ne_crash _ _ _ (map_eq_error_iff.1 h)
  | level => cases h

theorem crashless_askedBy (env : Environment) {os : List Override} (h : .threshold ∉ os) :
    Crashless (askedBy env os) := by
  intro message hmem
  obtain ⟨o, ho, raw, _, hread⟩ := mem_askedBy_iff.1 hmem
  have hne : o ≠ .threshold := fun hsame => h (hsame ▸ ho)
  exact read_ne_crash hne raw message hread

theorem exists_read_exceptionCheck_iff {word : String} :
    (∃ c, Override.exceptionCheck.read word = .ok c) ↔ ∃ on, truthValue? word = some on := by
  rw [Override.read, readBool]
  cases truthValue? word with
  | none => simp [Functor.map, Except.map]
  | some on => simp [Functor.map, Except.map]

theorem override_crash_iff {s : Settings} {env : Environment} {message : String} :
    (override s env).result = .error (.crashed message) ↔
      (∀ word, env Override.exceptionCheck.variableName = some word →
        ∃ on, truthValue? word = some on) ∧
      ∃ raw, env Override.threshold.variableName = some raw ∧
        readThreshold raw = .error (.crashed message) := by
  have hasked : askedBy env Override.all =
      present (env Override.exceptionCheck.variableName) Override.exceptionCheck.read ++
        (present (env Override.threshold.variableName) (fun raw => .threshold <$> readThreshold raw)
          ++ askedBy env [.iterations, .block, .level]) := rfl
  have hfirst : Crashless
      (present (env Override.exceptionCheck.variableName) Override.exceptionCheck.read) :=
    crashless_present (read_ne_crash (by decide))
  have hrest : Crashless (askedBy env [.iterations, .block, .level]) :=
    crashless_askedBy env (by decide)
  rw [result_override, hasked, change_crash_iff hfirst hrest]
  refine and_congr_left fun _ => ?_
  constructor
  · intro h word hword
    exact exists_read_exceptionCheck_iff.1 (h _ (mem_present_iff.2 ⟨word, hword, rfl⟩))
  · intro h c hc
    obtain ⟨word, hword, rfl⟩ := mem_present_iff.1 hc
    exact exists_read_exceptionCheck_iff.2 (h word hword)

/-! ## All ways in -/

/-- Reading a threshold, a file or overrides crashes exactly where an overfull threshold is read:
the text of a file has to be a settings file, and no override before the threshold may be refused.
Everywhere else reading returns. -/
theorem crashes_iff_overfull (raw text : String) (s : Settings) (env : Environment) :
    CrashesIff (readThreshold raw) (Overfull (Text.trim raw.toList)) ∧
    CrashesIff (parse s text)
      (∃ document file threshold, Toml.read? text.toList = some document ∧
        File.ofDocument document = .ok file ∧ file.probe.threshold = some threshold ∧
        Overfull (Text.trim threshold.toList)) ∧
    CrashesIff (override s env).result
      ((∀ word, env Override.exceptionCheck.variableName = some word →
          ∃ on, truthValue? word = some on) ∧
        ∃ threshold, env Override.threshold.variableName = some threshold ∧
          Overfull (Text.trim threshold.toList)) := by
  refine ⟨crashesIff_of fun message => readThreshold_crash_iff,
    crashesIff_of fun message => ?_, crashesIff_of fun message => ?_⟩
  · rw [parse_crash_iff]
    simp only [readThreshold_crash_iff]
    constructor
    · intro h
      obtain ⟨document, file, threshold, hdocument, hfile, hthreshold, hsame, hfull⟩ := h
      exact ⟨hsame, document, file, threshold, hdocument, hfile, hthreshold, hfull⟩
    · intro h
      obtain ⟨hsame, document, file, threshold, hdocument, hfile, hthreshold, hfull⟩ := h
      exact ⟨document, file, threshold, hdocument, hfile, hthreshold, hsame, hfull⟩
  · rw [override_crash_iff]
    simp only [readThreshold_crash_iff]
    constructor
    · intro h
      obtain ⟨hword, threshold, hthreshold, hsame, hfull⟩ := h
      exact ⟨hsame, hword, threshold, hthreshold, hfull⟩
    · intro h
      obtain ⟨hsame, hword, threshold, hthreshold, hfull⟩ := h
      exact ⟨hword, threshold, hthreshold, hsame, hfull⟩

/-- The first text to crash: all seconds that there are, and then a second of milliseconds. -/
theorem not_returns_overfull_second :
    ¬ Returns (readThreshold "18446744073709551615s 1000ms") := by
  have hcrash : readThreshold "18446744073709551615s 1000ms" = .error overflow := by rfl
  intro h
  rw [hcrash] at h
  rcases h with ⟨a, ha⟩ | ⟨why, hwhy⟩
  · cases ha
  · cases hwhy

end Settings

end ProcessIntegrity
