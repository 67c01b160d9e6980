import ProcessIntegrity.Proofs.Duration.Rendered
import ProcessIntegrity.Proofs.Settings.Overriding
import ProcessIntegrity.Proofs.Settings.Reachable
import ProcessIntegrity.Proofs.Text.Unsigned
/-!
# The logged threshold can be given back

The log shows the probe settings with the threshold as it is rendered, and the text at its place in
the log line is the rendering and nothing else. Read as a threshold it is the threshold again, to
the nanosecond, unless it is too short for one. The settings that a program can get to never are too
short, so overriding the threshold with what was logged changes nothing
(`logged_threshold_read_back`).
-/

namespace ProcessIntegrity.Settings

def shownWith (on : Bool) (t : String) (n : UInt32) : String :=
  s!"ProbeConfig \x7b enable_exception_check: {on}, " ++
    s!"timing_threshold: {t}, workload_iterations: {n} \x7d"

def ShowsThreshold (line t : String) : Prop :=
  ∃ on n, line = shownWith on t n

/-! ## The place in the line -/

theorem render_eq_shownWith (p : ProbeSettings) :
    p.render = shownWith p.exceptionCheck p.threshold.render p.iterations :=
  rfl

/-- The words for the truth values do not start alike. -/
theorem toString_append_inj {on on' : Bool} {s t : List Char}
    (h : (toString on).toList ++ s = (toString on').toList ++ t) : s = t := by
  cases on <;> cases on'
  · exact List.append_cancel_left h
  · cases h
  · cases h
  · exact List.append_cancel_left h

/-- Behind the threshold stands the only comma that is left in the line, so that what stands before
it is all of the threshold. -/
theorem showsThreshold_render_iff {p : ProbeSettings} {t : String} :
    ShowsThreshold p.render t ↔ t = p.threshold.render := by
  rw [render_eq_shownWith]
  constructor
  · rintro ⟨on, n, h⟩
    unfold shownWith at h
    have hlists := congrArg String.toList h
    simp only [String.toList_append, List.append_assoc] at hlists
    have hbehind := List.append_cancel_left (List.append_cancel_left
      (toString_append_inj (List.append_cancel_left hlists)))
    have hafter : ',' ∉ " workload_iterations: ".toList ++
        ((toString p.iterations).toList ++ " \x7d".toList) := by
      simp only [List.mem_append, not_or]
      exact ⟨by decide, Text.notMem_repr (c := ',') rfl _, by decide⟩
    have hbefore : ',' ∉ p.threshold.render.toList :=
      Duration.notMem_render (by decide) (by decide) (by decide) p.threshold
    have hcut := (List.append_cons_inj_of_notMem hbefore hafter).1 hbehind
    exact (String.toList_inj.1 hcut.1).symm
  · rintro rfl
    exact ⟨_, _, rfl⟩

/-! ## Reading it back -/

theorem read_trim_render (d : Duration) :
    Duration.read (Text.trim d.render.toList) = .ok d := by
  rw [Duration.render, String.toList_ofList, Duration.trim_renderChars, Duration.read_renderChars]

theorem threshold_means_render {d : Duration} (hd : 1 ≤ d.wholeMicros) :
    Override.threshold.Means d.render (.threshold d) :=
  .threshold ⟨read_trim_render d, hd⟩

/-- Overriding the threshold with its own rendering leaves it, whatever is overridden besides. -/
theorem threshold_override_render {s : Settings} (hs : s.probe.Safe) {env : Environment}
    (henv : env Override.threshold.variableName = some s.probe.threshold.render) :
    (override s env).settings.probe.threshold = s.probe.threshold := by
  obtain ⟨os, _, _, _, htaken, -⟩ := exists_taken env
  obtain ⟨-, -, hupdated⟩ := htaken s
  have hheld :
      Override.threshold.held (override s env).settings = .threshold s.probe.threshold := by
    by_cases hmem : Override.threshold ∈ os
    · exact hupdated.given _ hmem _ _ henv (threshold_means_render hs.threshold_pos)
    · exact hupdated.kept _ (.inl hmem)
  exact Change.threshold.inj hheld

/-- Overriding nothing but the threshold, with its own rendering, leaves all settings. -/
theorem override_render {s : Settings} (hs : s.probe.Safe) {env : Environment}
    (henv : env Override.threshold.variableName = some s.probe.threshold.render)
    (halone : ∀ o : Override, o ≠ .threshold → env o.variableName = none) :
    (override s env).result = .ok () ∧ (override s env).settings = s := by
  have hmeans := threshold_means_render hs.threshold_pos
  have hreadable : Readable env Override.all := by
    intro o _ raw hraw
    by_cases ho : o = .threshold
    · subst ho
      rw [henv] at hraw
      cases hraw
      exact ⟨_, hmeans⟩
    · rw [halone o ho] at hraw
      cases hraw
  obtain ⟨-, hresult, hupdated⟩ := overrideWith_of_readable (by decide) hreadable s
  refine ⟨hresult, eq_of_held ?_ hupdated.enabled hupdated.file⟩
  intro o
  by_cases ho : o = .threshold
  · subst ho
    exact hupdated.given _ (by decide) _ _ henv hmeans
  · exact hupdated.kept o (.inr (halone o ho))

/-- The rendering of a duration is a threshold, of exactly this duration, if it is a microsecond or
more, and is refused as it is written otherwise. The text that shown probe settings have for the
threshold is its rendering; so an override with it leaves the threshold of all settings that a
program can get to, and all other settings too if there is no other override. -/
theorem logged_threshold_read_back :
    (∀ d : Duration,
      (1000 ≤ d.toNanos → readThreshold d.render = .ok d) ∧
      (d.toNanos < 1000 →
        readThreshold d.render = .error (.failed (.invalidValue "timing_threshold" d.render)))) ∧
    (∀ (p : ProbeSettings) (t : String), ShowsThreshold p.render t ↔ t = p.threshold.render) ∧
    ∀ (b : Build) (steps : List Step) (t : String) (env : Environment),
      ShowsThreshold (after b steps).probe.render t →
      env "NATIVE_GUARD_TIMING_THRESHOLD" = some t →
        readThreshold t = .ok (after b steps).probe.threshold ∧
        (override (after b steps) env).settings.probe.threshold =
          (after b steps).probe.threshold ∧
        ((∀ o : Override, o ≠ .threshold → env o.variableName = none) →
          (override (after b steps) env).result = .ok () ∧
          (override (after b steps) env).settings = after b steps) := by
  refine ⟨?_, fun p t => showsThreshold_render_iff, ?_⟩
  · intro d
    have hmicros := Duration.wholeMicros_eq d
    constructor
    · intro hlong
      exact readThreshold_eq_ok_iff.2 ⟨read_trim_render d, by omega⟩
    · intro hshort
      exact readThreshold_eq_error_iff.2 (.tooShort (read_trim_render d) (by omega))
  · intro b steps t env hshown henv
    have hsafe : (after b steps).probe.Safe := safe_foldl (safe_build b) steps
    rw [showsThreshold_render_iff.1 hshown] at henv ⊢
    exact ⟨readThreshold_eq_ok_iff.2 ⟨read_trim_render _, hsafe.threshold_pos⟩,
      threshold_override_render hsafe henv, override_render hsafe henv⟩

def longest : Duration := ⟨18446744073709551615, 999999999, by decide, by decide⟩

def onlyThreshold (t : String) : Environment
  | "NATIVE_GUARD_TIMING_THRESHOLD" => some t
  | _ => none

theorem logged_threshold_read_back_interrupted :
    let s := after {} [interrupted]
    (readThreshold "18446744073709551615.999999999s" = .ok longest ∧
      readThreshold "999ns" = .error (.failed (.invalidValue "timing_threshold" "999ns"))) ∧
    ShowsThreshold s.probe.render "2ms" ∧
    s.probe.threshold = ⟨0, 2000000, by decide, by decide⟩ ∧
    (override s (onlyThreshold "2ms")).result = .ok () ∧
    (override s (onlyThreshold "2ms")).settings = s := by
  intro s
  obtain ⟨hread, hshows, hback⟩ := logged_threshold_read_back
  have hlongest : longest.render = "18446744073709551615.999999999s" := by decide +kernel
  have hbrief : (⟨0, 999, by decide, by decide⟩ : Duration).render = "999ns" := by decide +kernel
  have hthreshold : s.probe.threshold = ⟨0, 2000000, by decide, by decide⟩ := rfl
  have hrender : "2ms" = s.probe.threshold.render := by
    rw [hthreshold]
    decide +kernel
  have hshown := (hshows s.probe "2ms").2 hrender
  obtain ⟨-, -, halone⟩ := hback {} [interrupted] "2ms" (onlyThreshold "2ms") hshown rfl
  refine ⟨⟨?_, ?_⟩, hshown, hthreshold, halone ?_⟩
  · rw [← hlongest]
    exact (hread longest).1 (by decide)
  · rw [← hbrief]
    exact (hread _).2 (by decide)
  · intro o ho
    cases o with
    | threshold => exact absurd rfl ho
    | _ => rfl

end ProcessIntegrity.Settings
