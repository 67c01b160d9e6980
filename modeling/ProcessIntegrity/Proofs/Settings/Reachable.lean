import ProcessIntegrity.Host.Scripted
import ProcessIntegrity.Proofs.Probe.Safe
import ProcessIntegrity.Proofs.Settings.Changes
import ProcessIntegrity.Settings.Load
/-!
# Settings that a program can get to

A program starts with the settings of its build and then reads files and overrides, in any order and
any number of times. A file replaces the settings only as a whole; overrides are made in place, and
those before a refused one stay made. Whatever happens, the settings stay safe to probe with: every
single change is checked before it is made, so each step keeps `ProbeSettings.Safe`, and so does
every sequence of steps.
-/

namespace ProcessIntegrity.Settings

inductive Step where
  | reset
  | parse (text : String)
  | load (path : String) (content : Except IoFailure String)
  | loadOrDefault (path : String) (content : Except IoFailure String)
  | override (env : Environment)

def adopt (s : Settings) : Except Stop Settings → Settings
  | .ok new => new
  | .error _ => s

def Step.apply (b : Build) (s : Settings) : Step → Settings
  | reset => b.settings
  | parse text => adopt s (Settings.parse b.settings text)
  | load path content => adopt s (Settings.load b.settings path content).result
  | loadOrDefault path content => adopt s (Settings.loadOrDefault b.settings path content).result
  | override env => (Settings.override s env).settings

def after (b : Build) (steps : List Step) : Settings :=
  steps.foldl (Step.apply b) b.settings

/-! ## Changes that are safe to make -/

def Change.Safe : Change → Prop
  | threshold d => 1 ≤ d.wholeMicros
  | iterations n => 1 ≤ n.toNat ∧ n.toNat ≤ maxIterations.toNat
  | exceptionCheck _ | block _ | level _ => True

theorem safe_apply {s : Settings} {c : Change} (hs : s.probe.Safe) (hc : c.Safe) :
    (c.apply s).probe.Safe := by
  cases c with
  | exceptionCheck on => exact ⟨hs.iterations_pos, hs.iterations_le, hs.threshold_pos⟩
  | threshold d => exact ⟨hs.iterations_pos, hs.iterations_le, hc⟩
  | iterations n => exact ⟨hc.1, hc.2, hs.threshold_pos⟩
  | block on => exact hs
  | level name => exact hs

theorem wholeMicros_pos_of_readThreshold {raw : String} {d : Duration}
    (h : readThreshold raw = .ok d) : 1 ≤ d.wholeMicros := by
  rw [readThreshold] at h
  cases hread : Duration.read (Text.trim raw.toList) with
  | error fault =>
      rw [hread] at h
      cases fault <;> cases h
  | ok e =>
      simp only [hread] at h
      split at h
      · cases h
      · next hne =>
          cases h
          exact Nat.pos_of_ne_zero hne

theorem bounds_of_checkIterations {key : String} {n m : UInt32}
    (h : checkIterations key n = .ok m) : 1 ≤ m.toNat ∧ m.toNat ≤ maxIterations.toNat := by
  rw [checkIterations] at h
  split at h
  · cases h
  · next hbounds =>
      cases h
      rw [not_or] at hbounds
      have hne : n.toNat ≠ 0 := fun hzero => hbounds.1 (UInt32.toNat_inj.1 hzero)
      have hle : ¬ maxIterations.toNat < n.toNat :=
        fun hlt => hbounds.2 (UInt32.lt_iff_toNat_lt.2 hlt)
      omega

theorem bounds_of_readIterations {key raw : String} {n : UInt32}
    (h : readIterations key raw = .ok n) : 1 ≤ n.toNat ∧ n.toNat ≤ maxIterations.toNat := by
  rw [readIterations] at h
  split at h
  · exact bounds_of_checkIterations h
  · cases h

/-! ## The three ways in -/

/-- Whatever the build says, its settings are safe: a threshold text that is none, or zero, is
ignored. -/
theorem safe_build (b : Build) : b.settings.probe.Safe := by
  refine ⟨by change 1 ≤ defaultIterations.toNat; decide,
    by change defaultIterations.toNat ≤ maxIterations.toNat; decide, ?_⟩
  change 1 ≤ ((b.thresholdMicros.bind fun text => thresholdOfMicros? text.toList).getD
    defaultThreshold).wholeMicros
  cases hthreshold : b.thresholdMicros.bind fun text => thresholdOfMicros? text.toList with
  | none => decide
  | some d =>
      obtain ⟨text, _, htext⟩ := Option.bind_eq_some_iff.1 hthreshold
      rw [thresholdOfMicros?] at htext
      split at htext
      · cases htext
      · cases htext
      · cases htext
        rw [Option.getD_some, Duration.wholeMicros_ofMicros]
        omega

theorem safe_of_mem_changes {asked : ProbeSection} {c : Change}
    (h : .ok c ∈ asked.changes) : c.Safe := by
  simp only [ProbeSection.changes, List.mem_append, mem_present_iff] at h
  rcases h with ((⟨on, _, h⟩ | ⟨raw, _, h⟩) | ⟨n, _, h⟩) | ⟨on, _, h⟩
  · cases h
    trivial
  · obtain ⟨d, hd, rfl⟩ := map_eq_ok_iff.1 h
    exact wholeMicros_pos_of_readThreshold hd
  · obtain ⟨m, hm, rfl⟩ := map_eq_ok_iff.1 h
    exact bounds_of_checkIterations hm
  · cases h
    trivial

theorem safe_change {s : Settings} {changes : List (Except Stop Change)} (hs : s.probe.Safe)
    (hchanges : ∀ c, .ok c ∈ changes → c.Safe) : (change s changes).settings.probe.Safe := by
  induction changes generalizing s with
  | nil => exact hs
  | cons c later ih =>
      cases c with
      | error stop => exact hs
      | ok c =>
          have hc : c.Safe := hchanges c List.mem_cons_self
          exact ih (safe_apply hs hc) fun d hd => hchanges d (List.mem_cons_of_mem _ hd)

theorem safe_of_parse {defaults s : Settings} {text : String} (hdefaults : defaults.probe.Safe)
    (h : parse defaults text = .ok s) : s.probe.Safe := by
  rw [parse] at h
  split at h
  · cases h
  · split at h
    · cases h
    · next file _ =>
        simp only at h
        cases hresult : (change { defaults with logging := file.logging } file.probe.changes).result
        with
        | error stop =>
            rw [hresult] at h
            cases h
        | ok _ =>
            rw [hresult] at h
            cases h
            exact safe_change hdefaults fun c hc => safe_of_mem_changes hc

theorem safe_of_load {defaults s : Settings} {path : String} {content : Except IoFailure String}
    (hdefaults : defaults.probe.Safe) (h : (load defaults path content).result = .ok s) :
    s.probe.Safe := by
  cases content with
  | error why => cases h
  | ok text =>
      simp only [load] at h
      cases hparse : parse defaults text with
      | error stop =>
          rw [hparse] at h
          cases h
      | ok parsed =>
          rw [hparse] at h
          cases h
          exact safe_of_parse hdefaults hparse

theorem safe_of_loadOrDefault {defaults s : Settings} {path : String}
    {content : Except IoFailure String} (hdefaults : defaults.probe.Safe)
    (h : (loadOrDefault defaults path content).result = .ok s) : s.probe.Safe := by
  by_cases hmissing : content = .error .notFound
  · subst hmissing
    cases h
    exact hdefaults
  · rw [loadOrDefault] at h
    · exact safe_of_load hdefaults h
    · exact hmissing

theorem safe_of_read {o : Override} {raw : String} {c : Change} (h : o.read raw = .ok c) :
    c.Safe := by
  cases o with
  | exceptionCheck =>
      obtain ⟨on, _, rfl⟩ := map_eq_ok_iff.1 h
      trivial
  | threshold =>
      obtain ⟨d, hd, rfl⟩ := map_eq_ok_iff.1 h
      exact wholeMicros_pos_of_readThreshold hd
  | iterations =>
      obtain ⟨n, hn, rfl⟩ := map_eq_ok_iff.1 h
      exact bounds_of_readIterations hn
  | block =>
      obtain ⟨on, _, rfl⟩ := map_eq_ok_iff.1 h
      trivial
  | level =>
      cases h
      trivial

/-- Overriding keeps settings safe wherever it ends. -/
theorem safe_override {s : Settings} (hs : s.probe.Safe) (env : Environment) :
    (override s env).settings.probe.Safe := by
  rw [settings_override]
  refine safe_change hs fun c hc => ?_
  obtain ⟨o, _, raw, _, hread⟩ := mem_askedBy_iff.1 hc
  exact safe_of_read hread

/-! ## Every sequence of steps -/

theorem safe_adopt {s : Settings} {r : Except Stop Settings} (hs : s.probe.Safe)
    (hr : ∀ new, r = .ok new → new.probe.Safe) : (adopt s r).probe.Safe := by
  cases r with
  | error stop => exact hs
  | ok new => exact hr new rfl

theorem safe_step {b : Build} {s : Settings} (hs : s.probe.Safe) (step : Step) :
    (step.apply b s).probe.Safe := by
  have hdefaults := safe_build b
  cases step with
  | reset => exact hdefaults
  | parse text => exact safe_adopt hs fun _ h => safe_of_parse hdefaults h
  | load path content => exact safe_adopt hs fun _ h => safe_of_load hdefaults h
  | loadOrDefault path content => exact safe_adopt hs fun _ h => safe_of_loadOrDefault hdefaults h
  | override env => exact safe_override hs env

theorem safe_foldl {b : Build} {s : Settings} (hs : s.probe.Safe) (steps : List Step) :
    (steps.foldl (Step.apply b) s).probe.Safe := by
  induction steps generalizing s with
  | nil => exact hs
  | cons step later ih => exact ih (safe_step hs step)

/-- After every sequence of steps the settings are safe to probe with. Successive checks with them
start no workload outside the bounds, and no sample of at most one whole microsecond makes the
timing detector trigger. -/
theorem after_safe (b : Build) (steps : List Step) :
    let s := (after b steps).probe
    (1 ≤ s.iterations.toNat ∧ s.iterations.toNat ≤ maxIterations.toNat ∧
      1 ≤ s.threshold.wholeMicros) ∧
    (∀ {σ : Type} (host : Host σ) (start : σ) (n : Nat),
      ∀ r ∈ Inquiry.runEach host (List.replicate n (check s)) start,
      ∀ e ∈ r.questions, ∀ k, e.1 = .runWorkload k →
        1 ≤ k.toNat ∧ k.toNat ≤ maxIterations.toNat) ∧
    ∀ {σ : Type} (host : Host σ) (here : σ) (m : Timing.Sample),
      (Inquiry.run host (Timing.measure s.iterations) here).outcome = .finished (.ok m) →
      m.elapsedMicros ≤ 1 →
      (Inquiry.run host (Detector.timingAnomaly.evaluate s) here).outcome = .finished false := by
  intro s
  have hsafe : s.Safe := safe_foldl (safe_build b) steps
  refine ⟨⟨hsafe.iterations_pos, hsafe.iterations_le, hsafe.threshold_pos⟩, ?_, ?_⟩
  · intro σ host start n r hr e he k hk
    have hown := ownWorkload_checks host s start n r hr e he k hk
    rw [hown]
    exact ⟨hsafe.iterations_pos, hsafe.iterations_le⟩
  · intro σ host here m hsample hle
    exact evaluate_timing_of_le hsample (Nat.le_trans hle hsafe.threshold_pos)

/-- Overrides of which the third is refused; the two before it stay made. -/
def interrupted : Step := .override fun
  | "NATIVE_GUARD_TIMING_THRESHOLD" => some "2ms"
  | "NATIVE_GUARD_WORKLOAD_ITERATIONS" => some "3"
  | "NATIVE_GUARD_BLOCK_ON_DETECTION" => some "perhaps"
  | _ => none

theorem after_safe_interrupted :
    let s := (after {} [interrupted]).probe
    s = ⟨false, ⟨0, 2000000, by decide, by decide⟩, 3⟩ ∧
    (1 ≤ s.iterations.toNat ∧ s.iterations.toNat ≤ maxIterations.toNat ∧
      1 ≤ s.threshold.wholeMicros) ∧
    (∃ e ∈ (Inquiry.run Host.scripted (check s) {}).questions, e.1 = .runWorkload 3 ∧
      1 ≤ UInt32.toNat 3 ∧ UInt32.toNat 3 ≤ maxIterations.toNat) ∧
    (Inquiry.run Host.scripted (Detector.timingAnomaly.evaluate s) {}).outcome =
      .finished false := by
  intro s
  obtain ⟨hbounds, hworkload, htiming⟩ := after_safe {} [interrupted]
  have hs : s = ⟨false, ⟨0, 2000000, by decide, by decide⟩, 3⟩ := by rfl
  obtain ⟨e, he, hk⟩ : ∃ e ∈ (Inquiry.run Host.scripted (check s) {}).questions,
      e.1 = .runWorkload 3 := by
    rw [hs]
    exact ⟨⟨.runWorkload 3, _⟩, List.mem_of_getElem? (i := 4) rfl, rfl⟩
  have hsample : (Inquiry.run Host.scripted (Timing.measure s.iterations) {}).outcome =
      .finished (.ok ⟨0, 0, 1000000⟩) := by
    rw [hs]
    rfl
  exact ⟨hs, hbounds, ⟨e, he, hk, hworkload Host.scripted {} 1 _ List.mem_cons_self e he 3 hk⟩,
    htiming Host.scripted {} _ hsample (by decide)⟩

end ProcessIntegrity.Settings
