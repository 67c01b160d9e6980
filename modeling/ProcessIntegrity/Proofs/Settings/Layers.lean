import ProcessIntegrity.Proofs.Settings.Overriding
/-!
# Layers of variables

Two environments can be laid over each other: what the upper one has hides what the lower one has.
Overriding by the lower one, when that goes through, and then by the upper one is overriding by both
layers at once. Overriding by the same environment again changes nothing, and what a setting is
overridden with does not depend on the settings before (`override_layers`).
-/

namespace ProcessIntegrity.Settings

/-- The variables of `upper`, and those of `lower` that `upper` does not have. -/
def layered (upper lower : Environment) : Environment :=
  fun name => (upper name).or (lower name)

section Layered

variable {upper lower : Environment} {name : String}

theorem layered_of_some {raw : String} (h : upper name = some raw) :
    layered upper lower name = some raw := by
  rw [layered, h, Option.some_or]

theorem layered_of_none (h : upper name = none) : layered upper lower name = lower name := by
  rw [layered, h, Option.none_or]

/-- Layers of texts that mean something are such a layer. -/
theorem Readable.layered {os : List Override} (hupper : Readable upper os)
    (hlower : Readable lower os) : Readable (layered upper lower) os := by
  intro o ho raw hraw
  cases h : upper o.variableName with
  | none =>
      rw [layered_of_none h] at hraw
      exact hlower o ho raw hraw
  | some raw' =>
      rw [layered_of_some h] at hraw
      cases hraw
      exact hupper o ho raw h

/-- Two updates one after the other are the update by both layers. -/
theorem Updated.layered {os : List Override} {s s₁ s₂ : Settings} (hlower : Updated lower os s s₁)
    (hupper : Updated upper os s₁ s₂) : Updated (layered upper lower) os s s₂ where
  given o ho raw c hraw hc := by
    cases h : upper o.variableName with
    | none =>
        rw [layered_of_none h] at hraw
        rw [hupper.kept o (.inr h)]
        exact hlower.given o ho raw c hraw hc
    | some raw' =>
        rw [layered_of_some h] at hraw
        cases hraw
        exact hupper.given o ho raw c h hc
  kept o ho := by
    rcases ho with hnot | hnone
    · rw [hupper.kept o (.inl hnot), hlower.kept o (.inl hnot)]
    · obtain ⟨hnoUpper, hnoLower⟩ := Option.or_eq_none_iff.1 hnone
      rw [hupper.kept o (.inr hnoUpper), hlower.kept o (.inr hnoLower)]
  enabled := hupper.enabled.trans hlower.enabled
  file := hupper.file.trans hlower.file

end Layered

/-! ## Updates -/

section Updates

variable {env : Environment} {os : List Override} {s s₁ s₂ : Settings}

/-- Texts that all mean something leave nothing open about the update. -/
theorem Updated.unique (h₁ : Updated env os s s₁) (henv : Readable env os)
    (h₂ : Updated env os s s₂) : s₁ = s₂ := by
  apply eq_of_held
  · intro o
    by_cases ho : o ∈ os
    · cases hraw : env o.variableName with
      | none => rw [h₁.kept o (.inr hraw), h₂.kept o (.inr hraw)]
      | some raw =>
          obtain ⟨c, hc⟩ := henv o ho raw hraw
          rw [h₁.given o ho raw c hraw hc, h₂.given o ho raw c hraw hc]
    · rw [h₁.kept o (.inl ho), h₂.kept o (.inl ho)]
  · rw [h₁.enabled, h₂.enabled]
  · rw [h₁.file, h₂.file]

/-- Settings that were updated already have the values. -/
theorem Updated.again (h : Updated env os s s₁) : Updated env os s₁ s₁ :=
  ⟨h.given, fun _ _ => rfl, rfl, rfl⟩

/-- Overriding goes through exactly if all variables mean something. -/
theorem override_eq_ok_iff :
    (override s env).result = .ok () ↔ Readable env Override.all := by
  constructor
  · intro hok
    rcases readable_or_stopped env Override.all with
      hall | ⟨before, o, after, raw, stop, hsplit, hbefore, hraw, hstop⟩
    · exact hall
    · rw [override, hsplit, overrideWith_of_stopped hbefore hraw hstop] at hok
      cases hok
  · intro hall
    exact (overrideWith_of_readable (by decide) hall s).2.1

theorem updated_override (hall : Readable env Override.all) (s : Settings) :
    Updated env Override.all s (override s env).settings :=
  (overrideWith_of_readable (by decide) hall s).2.2

end Updates

/-! ## Layers and repetition -/

/-- Over a layer that means something, the upper layer alone decides whether both layers at once go
through, and how they do not. -/
theorem result_override_layered {lower : Environment} (hlower : Readable lower Override.all)
    (upper : Environment) (s s' : Settings) :
    (override s (layered upper lower)).result = (override s' upper).result := by
  rcases readable_or_stopped upper Override.all with
    hupper | ⟨before, o, after, raw, stop, hsplit, hbefore, hraw, hstop⟩
  · rw [override_eq_ok_iff.2 hupper, override_eq_ok_iff.2 (hupper.layered hlower)]
  · have hlowerBefore : Readable lower before := by
      intro o ho
      apply hlower
      rw [hsplit]
      exact List.mem_append_left _ ho
    have hlayers := hbefore.layered hlowerBefore
    rw [override, override, hsplit, overrideWith_of_stopped hbefore hraw hstop,
      overrideWith_of_stopped hlayers (layered_of_some hraw) hstop]

/-- Overriding again asks for the same variables, ends the same way and changes nothing. -/
theorem override_override (s : Settings) (env : Environment) :
    override (override s env).settings env = override s env := by
  obtain ⟨os, names, result, henv, htaken, -⟩ := exists_taken env
  obtain ⟨hlookups, hresult, hupdated⟩ := htaken s
  obtain ⟨hlookups', hresult', hupdated'⟩ := htaken (override s env).settings
  exact Overridden.ext (hupdated'.unique henv hupdated.again)
    (hlookups'.trans hlookups.symm) (hresult'.trans hresult.symm)

/-- Overriding by a lower layer and then by an upper one goes through if both at once do, to the
same settings, and fails as both at once do. Overriding by the same layer twice is doing it once,
even if it fails. A setting whose variable is asked for and means something gets what it means,
whatever the settings were. -/
theorem override_layers (s : Settings) :
    (∀ lower upper : Environment, (override s lower).result = .ok () →
      (override (override s lower).settings upper).result =
          (override s (layered upper lower)).result ∧
        ((override s (layered upper lower)).result = .ok () →
          (override (override s lower).settings upper).settings =
            (override s (layered upper lower)).settings)) ∧
    (∀ env : Environment, override (override s env).settings env = override s env) ∧
    ∀ (env : Environment) (s' : Settings),
      (override s' env).lookups = (override s env).lookups ∧
      (override s' env).result = (override s env).result ∧
      ∀ (o : Override) raw c, env o.variableName = some raw → o.Means raw c →
        o.variableName ∈ (override s env).lookups →
          o.held (override s env).settings = c ∧ o.held (override s' env).settings = c := by
  refine ⟨?_, override_override s, ?_⟩
  · intro lower upper hok
    have hlower := override_eq_ok_iff.1 hok
    have hresult := result_override_layered hlower upper s (override s lower).settings
    refine ⟨hresult.symm, fun hlayers => ?_⟩
    have hupper := override_eq_ok_iff.1 (hresult.symm.trans hlayers)
    have hupdated := (updated_override hlower s).layered (updated_override hupper _)
    exact hupdated.unique (hupper.layered hlower) (updated_override (hupper.layered hlower) s)
  · intro env s'
    obtain ⟨os, names, result, henv, htaken, hmem⟩ := exists_taken env
    obtain ⟨hlookups, hresult, hupdated⟩ := htaken s
    obtain ⟨hlookups', hresult', hupdated'⟩ := htaken s'
    refine ⟨hlookups'.trans hlookups.symm, hresult'.trans hresult.symm, ?_⟩
    intro o raw c hraw hc hname
    rw [hlookups] at hname
    have ho := hmem o raw c hraw hc hname
    exact ⟨hupdated.given o ho raw c hraw hc, hupdated'.given o ho raw c hraw hc⟩

def watched : Environment
  | "NATIVE_GUARD_ENABLE_EXCEPTION_CHECK" => some "on"
  | "NATIVE_GUARD_LOG_LEVEL" => some " WARN"
  | _ => none

theorem override_layers_tuned :
    let s := Build.settings {}
    let lower := override s (tuned "Off")
    let both := override s (layered watched (tuned "Off"))
    (lower.result = .ok () ∧ both.result = .ok () ∧
      (override lower.settings watched).settings = both.settings ∧
      both.settings =
        ⟨⟨true, ⟨0, 2000000, by decide, by decide⟩, 3⟩, false, ⟨false, none, "WARN"⟩⟩) ∧
    (override s watched).settings.logging.level = "WARN" ∧
      (override lower.settings watched).settings.logging.level = "WARN" := by
  intro s lower both
  obtain ⟨hlayers, -, hheld⟩ := override_layers s
  have hlower : lower.result = .ok () := rfl
  have hboth : both.result = .ok () := rfl
  obtain ⟨-, -, hsame⟩ := hheld watched lower.settings
  obtain ⟨hlevel, hlevel'⟩ := hsame .level " WARN" _ rfl .level (by decide)
  exact ⟨⟨hlower, hboth, (hlayers _ _ hlower).2 hboth, rfl⟩, Change.level.inj hlevel,
    Change.level.inj hlevel'⟩

end ProcessIntegrity.Settings
