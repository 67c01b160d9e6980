import ProcessIntegrity.Settings.File
import ProcessIntegrity.Settings.Override
/-!
# One list of changes for every way in

A section of a file asks for changes, and so do the variables of an environment. Overriding asks for
its variables one by one and makes each change at once, but what becomes of the settings is what the
list of all these changes makes of them (`overrideWith_eq_change`), so that files and overrides can
be looked at as one thing.
-/

namespace ProcessIntegrity.Settings

/-! ## Lists of changes -/

theorem map_eq_ok_iff {α : Type} {f : α → Change} {x : Except Stop α} {c : Change} :
    f <$> x = .ok c ↔ ∃ a, x = .ok a ∧ f a = c := by
  cases x with
  | error stop => simp [Functor.map, Except.map]
  | ok a => simp [Functor.map, Except.map]

theorem map_eq_error_iff {α : Type} {f : α → Change} {x : Except Stop α} {stop : Stop} :
    f <$> x = .error stop ↔ x = .error stop := by
  cases x with
  | error e => simp [Functor.map, Except.map]
  | ok a => simp [Functor.map, Except.map]

theorem mem_present_iff {α : Type} {field : Option α} {read : α → Except Stop Change}
    {r : Except Stop Change} : r ∈ present field read ↔ ∃ a, field = some a ∧ read a = r := by
  rw [present, Option.mem_toList, Option.map_eq_some_iff]

theorem mem_of_change_error {s : Settings} {changes : List (Except Stop Change)} {stop : Stop}
    (h : (change s changes).result = .error stop) : .error stop ∈ changes := by
  induction changes generalizing s with
  | nil => cases h
  | cons c later ih =>
      cases c with
      | error e =>
          rw [change] at h
          rw [Except.error.inj h]
          exact List.mem_cons_self
      | ok c => exact List.mem_cons_of_mem _ (ih h)

/-! ## Overrides as a list of changes -/

def askedBy (env : Environment) (os : List Override) : List (Except Stop Change) :=
  os.flatMap fun o => present (env o.variableName) o.read

theorem mem_askedBy_iff {env : Environment} {os : List Override} {r : Except Stop Change} :
    r ∈ askedBy env os ↔ ∃ o ∈ os, ∃ raw, env o.variableName = some raw ∧ o.read raw = r := by
  simp only [askedBy, List.mem_flatMap, mem_present_iff]

theorem overrideWith_eq_change (env : Environment) (s : Settings) (os : List Override) :
    (⟨(overrideWith env s os).settings, (overrideWith env s os).result⟩ : Changed) =
      change s (askedBy env os) := by
  induction os generalizing s with
  | nil => rfl
  | cons o later ih =>
      rw [overrideWith, askedBy, List.flatMap_cons, present]
      cases (env o.variableName).map o.read with
      | none => exact ih s
      | some read =>
          cases read with
          | ok c => exact ih (c.apply s)
          | error stop => rfl

theorem settings_override (s : Settings) (env : Environment) :
    (override s env).settings = (change s (askedBy env Override.all)).settings :=
  congrArg Changed.settings (overrideWith_eq_change env s Override.all)

theorem result_override (s : Settings) (env : Environment) :
    (override s env).result = (change s (askedBy env Override.all)).result :=
  congrArg Changed.result (overrideWith_eq_change env s Override.all)

end ProcessIntegrity.Settings
