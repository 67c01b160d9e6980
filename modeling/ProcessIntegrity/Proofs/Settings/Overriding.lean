import ProcessIntegrity.Proofs.Settings.Crash
import ProcessIntegrity.Proofs.Settings.Meaning
/-!
# What overriding comes to

Every variable up to the first refused one is asked for, once and in order. The settings of those
before it get the values that their texts mean, if there are any, and nothing else is touched; the
refused value is the failure (`override_exact_prefix`).
-/

namespace ProcessIntegrity.Settings

def Change.target : Change → Override
  | exceptionCheck _ => .exceptionCheck
  | threshold _ => .threshold
  | iterations _ => .iterations
  | block _ => .block
  | level _ => .level

/-- What the settings have for one of them, as the change that would leave it as it is. -/
def Override.held (o : Override) (s : Settings) : Change :=
  match o with
  | exceptionCheck => .exceptionCheck s.probe.exceptionCheck
  | threshold => .threshold s.probe.threshold
  | iterations => .iterations s.probe.iterations
  | block => .block s.block
  | level => .level s.logging.level

/-- Every variable of the list that is there has a text that means something. -/
def Readable (env : Environment) (os : List Override) : Prop :=
  ∀ o ∈ os, ∀ raw, env o.variableName = some raw → ∃ c, o.Means raw c

/-- From `s` to `s'` the settings of the list got the values of their variables, where there are
any, and everything else was kept. -/
structure Updated (env : Environment) (os : List Override) (s s' : Settings) : Prop where
  given : ∀ o ∈ os, ∀ raw c, env o.variableName = some raw → o.Means raw c → o.held s' = c
  kept : ∀ o : Override, o ∉ os ∨ env o.variableName = none → o.held s' = o.held s
  enabled : s'.logging.enabled = s.logging.enabled
  file : s'.logging.file = s.logging.file

/-! ## One change -/

theorem Override.Means.target {o : Override} {raw : String} {c : Change} (h : o.Means raw c) :
    c.target = o := by
  cases h <;> rfl

/-- A change gives its own setting the value and leaves the others alone. -/
theorem Override.held_apply (o : Override) (c : Change) (s : Settings) :
    o.held (c.apply s) = if c.target = o then c else o.held s := by
  cases c <;> cases o <;> rfl

theorem enabled_apply (c : Change) (s : Settings) :
    (c.apply s).logging.enabled = s.logging.enabled := by
  cases c <;> rfl

theorem file_apply (c : Change) (s : Settings) : (c.apply s).logging.file = s.logging.file := by
  cases c <;> rfl

/-- Settings are what they hold for each override, and the two that none is for. -/
theorem eq_of_held {s s' : Settings} (hheld : ∀ o : Override, o.held s = o.held s')
    (henabled : s.logging.enabled = s'.logging.enabled) (hfile : s.logging.file = s'.logging.file) :
    s = s' := by
  have hexception := Change.exceptionCheck.inj (hheld .exceptionCheck)
  have hthreshold := Change.threshold.inj (hheld .threshold)
  have hiterations := Change.iterations.inj (hheld .iterations)
  have hblock := Change.block.inj (hheld .block)
  have hlevel := Change.level.inj (hheld .level)
  obtain ⟨⟨_, _, _⟩, _, ⟨_, _, _⟩⟩ := s
  obtain ⟨⟨_, _, _⟩, _, ⟨_, _, _⟩⟩ := s'
  simp_all

/-! ## Variables one after another -/

variable {env : Environment}

theorem overrideWith_absent {o : Override} (h : env o.variableName = none) (s : Settings)
    (later : List Override) :
    overrideWith env s (o :: later) =
      { overrideWith env s later with
        lookups := o.variableName :: (overrideWith env s later).lookups } := by
  rw [overrideWith, h]
  rfl

theorem overrideWith_means {o : Override} {raw : String} {c : Change}
    (h : env o.variableName = some raw) (hc : o.Means raw c) (s : Settings)
    (later : List Override) :
    overrideWith env s (o :: later) =
      { overrideWith env (c.apply s) later with
        lookups := o.variableName :: (overrideWith env (c.apply s) later).lookups } := by
  rw [overrideWith, h, Option.map_some, Override.read_eq_ok_iff.2 hc]

theorem overrideWith_stopped {o : Override} {raw : String} {stop : Stop}
    (h : env o.variableName = some raw) (hstop : o.read raw = .error stop) (s : Settings)
    (later : List Override) :
    overrideWith env s (o :: later) = ⟨s, [o.variableName], .error stop⟩ := by
  rw [overrideWith, h, Option.map_some, hstop]

theorem updated_refl (env : Environment) (s : Settings) : Updated env [] s s :=
  ⟨by simp, fun _ _ => rfl, rfl, rfl⟩

theorem Updated.cons_absent {o : Override} {later : List Override} {s s' : Settings}
    (h : Updated env later s s') (ho : env o.variableName = none) :
    Updated env (o :: later) s s' where
  given o' ho' raw c hraw hc := by
    rcases List.mem_cons.1 ho' with rfl | hlater
    · rw [ho] at hraw
      cases hraw
    · exact h.given o' hlater raw c hraw hc
  kept o' ho' := by
    rcases ho' with hnot | hnone
    · exact h.kept o' (.inl fun hlater => hnot (List.mem_cons_of_mem _ hlater))
    · exact h.kept o' (.inr hnone)
  enabled := h.enabled
  file := h.file

theorem Updated.cons_means {o : Override} {raw : String} {c : Change} {later : List Override}
    {s s' : Settings} (h : Updated env later (c.apply s) s') (hnew : o ∉ later)
    (hraw : env o.variableName = some raw) (hc : o.Means raw c) :
    Updated env (o :: later) s s' where
  given o' ho' raw' c' hraw' hc' := by
    rcases List.mem_cons.1 ho' with rfl | hlater
    · rw [hraw] at hraw'
      cases hraw'
      rw [h.kept o' (.inl hnew), Override.held_apply, if_pos hc.target, hc.unique hc']
    · exact h.given o' hlater raw' c' hraw' hc'
  kept o' ho' := by
    have hne : o' ≠ o := by
      rintro rfl
      rcases ho' with hnot | hnone
      · exact hnot List.mem_cons_self
      · rw [hraw] at hnone
        cases hnone
    have hlater : o' ∉ later ∨ env o'.variableName = none :=
      ho'.imp_left fun hnot hmem => hnot (List.mem_cons_of_mem _ hmem)
    rw [h.kept o' hlater, Override.held_apply, hc.target, if_neg (Ne.symm hne)]
  enabled := h.enabled.trans (enabled_apply c s)
  file := h.file.trans (file_apply c s)

theorem Readable.of_cons {o : Override} {later : List Override} (h : Readable env (o :: later)) :
    Readable env later :=
  fun o' ho' => h o' (List.mem_cons_of_mem _ ho')

/-- Variables that all mean something are asked for in order and taken over. -/
theorem overrideWith_of_readable {os : List Override} (hnodup : os.Nodup) (h : Readable env os)
    (s : Settings) :
    (overrideWith env s os).lookups = os.map Override.variableName ∧
      (overrideWith env s os).result = .ok () ∧
      Updated env os s (overrideWith env s os).settings := by
  induction os generalizing s with
  | nil => exact ⟨rfl, rfl, updated_refl env s⟩
  | cons o later ih =>
      obtain ⟨hnew, hnodup⟩ := List.nodup_cons.1 hnodup
      cases hraw : env o.variableName with
      | none =>
          obtain ⟨hlookups, hresult, hupdated⟩ := ih hnodup h.of_cons s
          rw [overrideWith_absent hraw]
          exact ⟨congrArg (o.variableName :: ·) hlookups, hresult, hupdated.cons_absent hraw⟩
      | some raw =>
          obtain ⟨c, hc⟩ := h o List.mem_cons_self raw hraw
          obtain ⟨hlookups, hresult, hupdated⟩ := ih hnodup h.of_cons (c.apply s)
          rw [overrideWith_means hraw hc]
          exact ⟨congrArg (o.variableName :: ·) hlookups, hresult,
            hupdated.cons_means hnew hraw hc⟩

/-- Behind variables that all mean something the others go on with what these left. -/
theorem overrideWith_append {before : List Override} (h : Readable env before) (s : Settings)
    (after : List Override) :
    overrideWith env s (before ++ after) =
      { overrideWith env (overrideWith env s before).settings after with
        lookups := before.map Override.variableName ++
          (overrideWith env (overrideWith env s before).settings after).lookups } := by
  induction before generalizing s with
  | nil => rfl
  | cons o later ih =>
      rw [List.cons_append]
      cases hraw : env o.variableName with
      | none =>
          rw [overrideWith_absent hraw, overrideWith_absent hraw, ih h.of_cons]
          rfl
      | some raw =>
          obtain ⟨c, hc⟩ := h o List.mem_cons_self raw hraw
          rw [overrideWith_means hraw hc, overrideWith_means hraw hc, ih h.of_cons]
          rfl

theorem overrideWith_of_stopped {before after : List Override} {o : Override} {raw : String}
    {stop : Stop} (h : Readable env before) (hraw : env o.variableName = some raw)
    (hstop : o.read raw = .error stop) (s : Settings) :
    overrideWith env s (before ++ o :: after) =
      ⟨(overrideWith env s before).settings, (before ++ [o]).map Override.variableName,
        .error stop⟩ := by
  rw [overrideWith_append h, overrideWith_stopped hraw hstop, List.map_append]
  rfl

/-- Either all variables mean something, or there is a first one that stops overriding. -/
theorem readable_or_stopped (env : Environment) (os : List Override) :
    Readable env os ∨ ∃ before o after raw stop, os = before ++ o :: after ∧
      Readable env before ∧ env o.variableName = some raw ∧ o.read raw = .error stop := by
  induction os with
  | nil => exact .inl (by simp [Readable])
  | cons o later ih =>
      by_cases hfirst : ∀ raw, env o.variableName = some raw → ∃ c, o.Means raw c
      · rcases ih with hlater | ⟨before, o', after, raw, stop, rfl, hbefore, hraw, hstop⟩
        · exact .inl (List.forall_mem_cons.2 ⟨hfirst, hlater⟩)
        · exact .inr ⟨o :: before, o', after, raw, stop, rfl,
            List.forall_mem_cons.2 ⟨hfirst, hbefore⟩, hraw, hstop⟩
      · simp only [not_forall] at hfirst
        obtain ⟨raw, hraw, hnone⟩ := hfirst
        cases hread : o.read raw with
        | ok c => exact absurd ⟨c, Override.read_eq_ok_iff.1 hread⟩ hnone
        | error stop => exact .inr ⟨[], o, later, raw, stop, rfl, by simp [Readable], hraw, hread⟩

/-! ## All variables -/

theorem Override.variableName_injective {o o' : Override} (h : o.variableName = o'.variableName) :
    o = o' := by
  revert h
  cases o <;> cases o' <;> decide

/-- The overrides that are taken over come first, all of them mean something, and which they are
does not depend on the settings. -/
theorem exists_taken (env : Environment) :
    ∃ (os : List Override) (names : List String) (r : Except Stop Unit), Readable env os ∧
      (∀ s, (override s env).lookups = names ∧ (override s env).result = r ∧
        Updated env os s (override s env).settings) ∧
      ∀ o raw c, env o.variableName = some raw → o.Means raw c → o.variableName ∈ names →
        o ∈ os := by
  rcases readable_or_stopped env Override.all with
    hall | ⟨before, o, after, raw, stop, hsplit, hbefore, hraw, hstop⟩
  · exact ⟨Override.all, _, _, hall, overrideWith_of_readable (by decide) hall,
      fun o _ _ _ _ _ => by cases o <;> decide⟩
  · have hnodup : before.Nodup := by
      have hnodup : Override.all.Nodup := by decide
      rw [hsplit] at hnodup
      exact (List.nodup_append.1 hnodup).1
    refine ⟨before, (before ++ [o]).map Override.variableName, .error stop, hbefore, ?_, ?_⟩
    · intro s
      rw [override, hsplit, overrideWith_of_stopped hbefore hraw hstop]
      exact ⟨rfl, rfl, (overrideWith_of_readable hnodup hbefore s).2.2⟩
    · intro o' raw' c hraw' hc hmem
      obtain ⟨o'', hmem, hname⟩ := List.mem_map.1 hmem
      rw [Override.variableName_injective hname] at hmem
      rcases List.mem_append.1 hmem with hmem | hmem
      · exact hmem
      · -- The refused variable means nothing.
        rw [List.mem_singleton.1 hmem] at hraw' hc
        rw [hraw] at hraw'
        cases hraw'
        rw [Override.read_eq_ok_iff.2 hc] at hstop
        cases hstop

/-- Overriding asks for the variables in a fixed order, once each. If all values that are there
mean something, all are taken over and nothing else changes. The first value that is refused ends
it: the variables up to this one have been asked for, those before it have been taken over, nothing
else changes, and the failure is that of the refused value. There are no other ends, unless the
threshold crashes. -/
theorem override_exact_prefix (s : Settings) (env : Environment) :
    Override.all.map Override.variableName =
      ["NATIVE_GUARD_ENABLE_EXCEPTION_CHECK", "NATIVE_GUARD_TIMING_THRESHOLD",
        "NATIVE_GUARD_WORKLOAD_ITERATIONS", "NATIVE_GUARD_BLOCK_ON_DETECTION",
        "NATIVE_GUARD_LOG_LEVEL"] ∧
    (Readable env Override.all →
      (override s env).lookups = Override.all.map Override.variableName ∧
        (override s env).result = .ok () ∧
        Updated env Override.all s (override s env).settings) ∧
    (∀ before o after raw why, Override.all = before ++ o :: after → Readable env before →
      env o.variableName = some raw → o.Refuses raw why →
        (override s env).lookups = (before ++ [o]).map Override.variableName ∧
          (override s env).result = .error (.failed why) ∧
          Updated env before s (override s env).settings) ∧
    ((∀ raw, env Override.threshold.variableName = some raw →
        Duration.read (Text.trim raw.toList) ≠ .error .carryOverflow) →
      Readable env Override.all ∨ ∃ before o after raw why, Override.all = before ++ o :: after ∧
        Readable env before ∧ env o.variableName = some raw ∧ o.Refuses raw why) := by
  have hnodup : Override.all.Nodup := by decide
  refine ⟨rfl, fun hall => overrideWith_of_readable hnodup hall s, ?_, ?_⟩
  · intro before o after raw why hsplit hbefore hraw hwhy
    have hstop := Override.read_eq_failed_iff.2 hwhy
    rw [hsplit] at hnodup
    rw [override, hsplit, overrideWith_of_stopped hbefore hraw hstop]
    exact ⟨rfl, rfl, (overrideWith_of_readable (List.nodup_append.1 hnodup).1 hbefore s).2.2⟩
  · intro hfine
    rcases readable_or_stopped env Override.all with
      hall | ⟨before, o, after, raw, stop, hsplit, hbefore, hraw, hstop⟩
    · exact .inl hall
    · refine .inr ⟨before, o, after, raw, ?_⟩
      cases stop with
      | failed why => exact ⟨why, hsplit, hbefore, hraw, Override.read_eq_failed_iff.1 hstop⟩
      | crashed message =>
          by_cases ho : o = .threshold
          · subst ho
            have hcrash := readThreshold_crash_iff.1 (map_eq_error_iff.1 hstop)
            exact absurd (Duration.read_crash_iff.2 hcrash.2) (hfine raw hraw)
          · exact absurd hstop (read_ne_crash ho raw message)

def tuned (block : String) : Environment
  | "NATIVE_GUARD_TIMING_THRESHOLD" => some " 2ms "
  | "NATIVE_GUARD_WORKLOAD_ITERATIONS" => some "+03"
  | "NATIVE_GUARD_BLOCK_ON_DETECTION" => some block
  | "NATIVE_GUARD_LOG_LEVEL" => some "debug\n"
  | _ => none

theorem readable_tuned {block : String} {os : List Override}
    (hblock : .block ∈ os → ∃ on, Spells on block) : Readable (tuned block) os := by
  intro o ho raw hraw
  cases o with
  | exceptionCheck => cases hraw
  | threshold =>
      cases hraw
      exact ⟨.threshold ⟨0, 2000000, by decide, by decide⟩, Override.read_eq_ok_iff.1 rfl⟩
  | iterations =>
      cases hraw
      exact ⟨.iterations 3, Override.read_eq_ok_iff.1 rfl⟩
  | block =>
      cases hraw
      obtain ⟨on, hon⟩ := hblock ho
      exact ⟨.block on, .block hon⟩
  | level => exact ⟨_, .level⟩

theorem override_exact_prefix_tuned :
    let s := Build.settings {}
    (Readable (tuned "Off") Override.all ∧
      (override s (tuned "Off")).lookups = Override.all.map Override.variableName ∧
      (override s (tuned "Off")).result = .ok () ∧
      (override s (tuned "Off")).settings =
        ⟨⟨false, ⟨0, 2000000, by decide, by decide⟩, 3⟩, false, ⟨false, none, "debug"⟩⟩) ∧
    (Override.block.Refuses "perhaps"
        (.invalidValue "NATIVE_GUARD_BLOCK_ON_DETECTION" "perhaps") ∧
      (override s (tuned "perhaps")).lookups = (Override.all.take 4).map Override.variableName ∧
      (override s (tuned "perhaps")).result =
        .error (.failed (.invalidValue "NATIVE_GUARD_BLOCK_ON_DETECTION" "perhaps")) ∧
      (override s (tuned "perhaps")).settings =
        ⟨⟨false, ⟨0, 2000000, by decide, by decide⟩, 3⟩, true, .default⟩) ∧
    ∃ before o after raw why, Override.all = before ++ o :: after ∧
      Readable (tuned "perhaps") before ∧ tuned "perhaps" o.variableName = some raw ∧
      o.Refuses raw why := by
  intro s
  have hoff : Readable (tuned "Off") Override.all :=
    readable_tuned fun _ => ⟨false, truthValue?_eq_some_iff.1 (by decide)⟩
  have hrefuses : Override.block.Refuses "perhaps"
      (.invalidValue "NATIVE_GUARD_BLOCK_ON_DETECTION" "perhaps") :=
    Override.read_eq_failed_iff.1 rfl
  obtain ⟨-, hall, -, -⟩ := override_exact_prefix s (tuned "Off")
  obtain ⟨-, -, hstop, hends⟩ := override_exact_prefix s (tuned "perhaps")
  obtain ⟨hlookups, hresult, -⟩ := hall hoff
  obtain ⟨hlookups', hresult', -⟩ := hstop [.exceptionCheck, .threshold, .iterations] .block
    [.level] "perhaps" _ rfl (readable_tuned fun h => absurd h (by decide)) rfl hrefuses
  refine ⟨⟨hoff, hlookups, hresult, rfl⟩, ⟨hrefuses, hlookups', hresult', rfl⟩, ?_⟩
  apply (hends ?_).resolve_left
  · intro hreadable
    obtain ⟨c, hc⟩ := hreadable .block (by decide) "perhaps" rfl
    have hread := Override.read_eq_ok_iff.2 hc
    rw [Override.read_eq_failed_iff.2 hrefuses] at hread
    cases hread
  · intro raw hraw
    cases hraw
    decide +kernel

end ProcessIntegrity.Settings
