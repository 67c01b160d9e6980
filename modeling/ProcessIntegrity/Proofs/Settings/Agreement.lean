import Mathlib.Data.List.Forall2
import Mathlib.Data.Option.Basic
import ProcessIntegrity.Proofs.Settings.Changes
import ProcessIntegrity.Proofs.Settings.Reading
/-!
# Files and overrides agree

A section of a file and an environment that asks for the same leave the same settings, whether all
of it can be taken or only a part of it. They also fail alike, but for one thing: a number of
iterations out of bounds is reported under the name that it was given by. Both are lists of changes,
and the lists agree change by change (`agree_changes`).
-/

namespace ProcessIntegrity.Settings

/-- Two results that are the same, but for the name under which a number of iterations out of bounds
is refused: the first comes from a file, the second from a variable. -/
inductive SameButKey {α : Type} : Except Stop α → Except Stop α → Prop
  | same {r : Except Stop α} : (∀ value, r ≠ .error (.failed (.invalidValue iterationsKey value))) →
      SameButKey r r
  | iterations {n : UInt32} : OutOfBounds n →
      SameButKey (.error (.failed (.invalidValue iterationsKey (toString n))))
        (.error (.failed (.invalidValue Override.iterations.variableName (toString n))))

/-- The environment asks for the same as the section: a variable is there for each field that is
there, its text has the meaning of the field, and none is there for the level. -/
structure Mirrors (env : Environment) (asked : ProbeSection) : Prop where
  exceptionCheck :
    Option.Rel Spells asked.exceptionCheck (env Override.exceptionCheck.variableName)
  threshold : Option.Rel (· = ·) asked.threshold (env Override.threshold.variableName)
  iterations : Option.Rel
    (fun n raw => Text.readUnsigned? UInt32.size (Text.trim raw.toList) = some n.toNat)
    asked.iterations (env Override.iterations.variableName)
  block : Option.Rel Spells asked.block (env Override.block.variableName)
  level : env Override.level.variableName = none

/-! ## Lists of changes that agree -/

theorem SameButKey.ok {α : Type} (a : α) : SameButKey (.ok a : Except Stop α) (.ok a) :=
  .same fun _ => by simp

theorem SameButKey.ok_iff {α : Type} {r r' : Except Stop α} (h : SameButKey r r') {a : α} :
    r' = .ok a ↔ r = .ok a := by
  cases h with
  | same _ => rfl
  | iterations _ => simp

theorem agree_present {α β : Type} {R : α → β → Prop} {field : Option α} {field' : Option β}
    {read : α → Except Stop Change} {read' : β → Except Stop Change}
    (hfield : Option.Rel R field field')
    (hread : ∀ a b, R a b → SameButKey (read a) (read' b)) :
    List.Forall₂ SameButKey (present field read) (present field' read') := by
  cases hfield with
  | none => exact .nil
  | some hsame => exact .cons (hread _ _ hsame) .nil

/-- Two lists of changes that agree leave the same settings, and end alike. -/
theorem change_agree {changes changes' : List (Except Stop Change)}
    (h : List.Forall₂ SameButKey changes changes') (s : Settings) :
    (change s changes').settings = (change s changes).settings ∧
      SameButKey (change s changes).result (change s changes').result := by
  induction h generalizing s with
  | nil => exact ⟨rfl, .ok ()⟩
  | @cons r r' later later' hfirst _ ih =>
      cases hfirst with
      | iterations hbounds => exact ⟨rfl, .iterations hbounds⟩
      | same hkey =>
          cases r with
          | ok c => exact ih (c.apply s)
          | error stop =>
              -- The same error ends both lists, whatever stands behind it in either.
              refine ⟨rfl, .same fun value hsame => hkey value ?_⟩
              rw [change] at hsame
              rw [Except.error.inj hsame]

/-! ## The changes of a section and of its mirror -/

theorem agree_readBool (make : Bool → Change) (key : String) {raw : String} {on : Bool}
    (h : Spells on raw) :
    SameButKey (.ok (make on)) (make <$> readBool key raw) := by
  rw [readBool_of_spells h]
  exact .ok (make on)

theorem agree_readThreshold {text raw : String} (h : text = raw) :
    SameButKey (Change.threshold <$> readThreshold text)
      (Change.threshold <$> readThreshold raw) := by
  have hkey : ∀ value stop, NoThreshold raw stop →
      stop ≠ .failed (.invalidValue iterationsKey value) := by
    intro value stop hnot
    cases hnot <;> simp [iterationsKey]
  rw [h]
  apply SameButKey.same
  intro value hrefused
  exact hkey value _ (readThreshold_eq_error_iff.1 (map_eq_error_iff.1 hrefused)) rfl

theorem agree_readIterations {n : UInt32} {raw : String}
    (h : Text.readUnsigned? UInt32.size (Text.trim raw.toList) = some n.toNat) :
    SameButKey (Change.iterations <$> checkIterations iterationsKey n)
      (Change.iterations <$> readIterations Override.iterations.variableName raw) := by
  rw [readIterations_of_count h]
  by_cases hbounds : OutOfBounds n
  · rw [checkIterations_of_outOfBounds _ hbounds, checkIterations_of_outOfBounds _ hbounds]
    exact .iterations hbounds
  · rw [checkIterations_of_not_outOfBounds _ hbounds, checkIterations_of_not_outOfBounds _ hbounds]
    exact .ok _

theorem agree_changes {env : Environment} {asked : ProbeSection} (h : Mirrors env asked) :
    List.Forall₂ SameButKey asked.changes (askedBy env Override.all) := by
  have hlevel : present (env Override.level.variableName) Override.level.read = [] := by
    rw [h.level]
    rfl
  have hasked : askedBy env Override.all =
      present (env Override.exceptionCheck.variableName) Override.exceptionCheck.read ++
        present (env Override.threshold.variableName) Override.threshold.read ++
        present (env Override.iterations.variableName) Override.iterations.read ++
        present (env Override.block.variableName) Override.block.read := by
    simp [askedBy, Override.all, hlevel]
  rw [hasked, ProbeSection.changes]
  have hexception := agree_present h.exceptionCheck fun on raw hspells =>
    agree_readBool .exceptionCheck Override.exceptionCheck.variableName hspells
  have hthreshold := agree_present h.threshold fun text raw hsame =>
    agree_readThreshold hsame
  have hiterations := agree_present h.iterations fun n raw hcount => agree_readIterations hcount
  have hblock := agree_present h.block fun on raw hspells =>
    agree_readBool .block Override.block.variableName hspells
  exact List.rel_append (List.rel_append (List.rel_append hexception hthreshold) hiterations) hblock

/-- A section and an environment that mirrors it leave the same settings, whether or not all of it
is taken. Either both succeed or both fail, and then with the same error, but for the name of a
number of iterations out of bounds. -/
theorem file_agrees_with_overrides (s : Settings) (asked : ProbeSection) (env : Environment)
    (h : Mirrors env asked) :
    (override s env).settings = (change s asked.changes).settings ∧
      ((override s env).result = .ok () ↔ (change s asked.changes).result = .ok ()) ∧
      SameButKey (change s asked.changes).result (override s env).result := by
  obtain ⟨hsettings, hresult⟩ := change_agree (agree_changes h) s
  rw [settings_override, result_override]
  exact ⟨hsettings, hresult.ok_iff, hresult⟩

/-- A section of which the third field is refused, as a mirror that spells it in its own way. -/
def spelledOut : Environment
  | "NATIVE_GUARD_ENABLE_EXCEPTION_CHECK" => some "\u3000YES\n"
  | "NATIVE_GUARD_TIMING_THRESHOLD" => some " 2ms"
  | "NATIVE_GUARD_WORKLOAD_ITERATIONS" => some "\t+020000 "
  | "NATIVE_GUARD_BLOCK_ON_DETECTION" => some "Off"
  | _ => none

theorem mirrors_spelledOut :
    Mirrors spelledOut ⟨some true, some " 2ms", some 20000, some false⟩ where
  exceptionCheck := .some (truthValue?_eq_some_iff.1 (by decide))
  threshold := .some rfl
  iterations := .some (by decide)
  block := .some (truthValue?_eq_some_iff.1 (by decide))
  level := rfl

theorem file_agrees_with_overrides_spelledOut :
    let s := Build.settings {}
    let asked : ProbeSection := ⟨some true, some " 2ms", some 20000, some false⟩
    Mirrors spelledOut asked ∧
      (override s spelledOut).settings = (change s asked.changes).settings ∧
      (change s asked.changes).settings.probe = ⟨true, ⟨0, 2000000, by decide, by decide⟩, 1000⟩ ∧
      ((override s spelledOut).result = .ok () ↔ (change s asked.changes).result = .ok ()) ∧
      SameButKey (change s asked.changes).result (override s spelledOut).result ∧
      (override s spelledOut).result =
        .error (.failed (.invalidValue "NATIVE_GUARD_WORKLOAD_ITERATIONS" "20000")) := by
  intro s asked
  obtain ⟨hsettings, hok, hresult⟩ :=
    file_agrees_with_overrides s asked spelledOut mirrors_spelledOut
  exact ⟨mirrors_spelledOut, hsettings, by rfl, hok, hresult, by rfl⟩

end ProcessIntegrity.Settings
