import ProcessIntegrity.Proofs.Text.Trim
import ProcessIntegrity.Settings.Change
/-!
# What the text of a setting means

For each kind of setting, which texts are taken and what for, and how the others are refused, said
of the text as it is written.
-/

namespace ProcessIntegrity.Settings

/-! ## Truth values -/

def wordsFor : Bool → List String
  | true => trueWords
  | false => falseWords

/-- The text is a word for the truth value, in letters of any case, with any blanks around it. -/
def Spells (on : Bool) (raw : String) : Prop :=
  ∃ before word after, raw.toList = before ++ word ++ after ∧
    (∀ c ∈ before, Text.isBlank c = true) ∧ (∀ c ∈ after, Text.isBlank c = true) ∧
    String.ofList (word.map Char.toLower) ∈ wordsFor on

theorem toLower_of_isBlank {c : Char} (h : Text.isBlank c = true) : c.toLower = c := by
  have hnot : ¬ (65 ≤ c.toNat ∧ c.toNat ≤ 90) := by
    simp only [Text.isBlank, Bool.or_eq_true, Bool.and_eq_true, decide_eq_true_eq, beq_iff_eq] at h
    omega
  unfold Char.toLower
  rw [dif_neg]
  intro hupper
  exact hnot ⟨UInt32.le_iff_toNat_le.1 hupper.1, UInt32.le_iff_toNat_le.1 hupper.2⟩

/-- No word has a blank in it, so no blank was taken for a letter of one. -/
theorem bare_of_mem_wordsFor {on : Bool} {word : List Char}
    (h : String.ofList (word.map Char.toLower) ∈ wordsFor on) : Text.Bare word := by
  have hwords : ∀ on, ∀ w ∈ wordsFor on, w.toList.any Text.isBlank = false := by decide
  have hword : (word.map Char.toLower).any Text.isBlank = false := by
    have hmem := hwords on _ h
    rwa [String.toList_ofList] at hmem
  apply Text.bare_of_forall
  intro c hc
  have hlower : Text.isBlank c.toLower = false := by
    rw [← Bool.not_eq_true]
    exact List.any_eq_false.1 hword _ (List.mem_map_of_mem hc)
  by_contra hblank
  rw [Bool.not_eq_false] at hblank
  rw [toLower_of_isBlank hblank, hblank] at hlower
  cases hlower

theorem truthValue?_eq_some_iff_mem {raw : String} {on : Bool} :
    truthValue? raw = some on ↔
      String.ofList ((Text.trim raw.toList).map Char.toLower) ∈ wordsFor on := by
  have hdisjoint : ∀ w ∈ falseWords, w ∉ trueWords := by decide
  unfold truthValue?
  generalize String.ofList ((Text.trim raw.toList).map Char.toLower) = word
  simp only [List.contains_iff_mem]
  by_cases htrue : word ∈ trueWords
  · have hfalse : word ∉ falseWords := fun h => hdisjoint word h htrue
    cases on <;> simp [wordsFor, htrue, hfalse]
  · by_cases hfalse : word ∈ falseWords <;> cases on <;> simp [wordsFor, htrue, hfalse]

theorem truthValue?_eq_some_iff {raw : String} {on : Bool} :
    truthValue? raw = some on ↔ Spells on raw := by
  rw [truthValue?_eq_some_iff_mem]
  constructor
  · intro h
    obtain ⟨before, after, hsplit, hbefore, hafter, _⟩ := Text.exists_padded raw.toList
    exact ⟨before, _, after, hsplit, hbefore, hafter, h⟩
  · intro h
    obtain ⟨before, word, after, hsplit, hbefore, hafter, hmem⟩ := h
    rw [hsplit, Text.trim_padded hbefore hafter (bare_of_mem_wordsFor hmem)]
    exact hmem

theorem readBool_of_spells {key raw : String} {on : Bool} (h : Spells on raw) :
    readBool key raw = .ok on := by
  rw [readBool, truthValue?_eq_some_iff.2 h]

/-! ## Numbers of iterations -/

def iterationsKey : String := "probe.workload_iterations"

def OutOfBounds (n : UInt32) : Prop :=
  n = 0 ∨ maxIterations < n

theorem checkIterations_of_outOfBounds {n : UInt32} (key : String) (h : OutOfBounds n) :
    checkIterations key n = .error (refused key (toString n)) :=
  if_pos h

theorem checkIterations_of_not_outOfBounds {n : UInt32} (key : String) (h : ¬ OutOfBounds n) :
    checkIterations key n = .ok n :=
  if_neg h

theorem readIterations_of_count {key raw : String} {n : UInt32}
    (h : Text.readUnsigned? UInt32.size (Text.trim raw.toList) = some n.toNat) :
    readIterations key raw = checkIterations key n := by
  simp only [readIterations, h, UInt32.ofNat_toNat]

/-! ## Thresholds -/

def IsThreshold (raw : String) (d : Duration) : Prop :=
  Duration.read (Text.trim raw.toList) = .ok d ∧ 1 ≤ d.wholeMicros

/-- Why a text is no threshold: it is no duration, or one of less than a microsecond. Apart from
these stands the text that crashes. -/
inductive NoThreshold (raw : String) : Stop → Prop
  | malformed {fault : Duration.Fault} : Duration.read (Text.trim raw.toList) = .error fault →
      fault ≠ .carryOverflow →
      NoThreshold raw (.failed (.invalidDuration (String.ofList (Text.trim raw.toList)) fault))
  | tooShort {d : Duration} : Duration.read (Text.trim raw.toList) = .ok d → d.wholeMicros = 0 →
      NoThreshold raw (.failed (.invalidValue "timing_threshold" raw))
  | crash : Duration.read (Text.trim raw.toList) = .error .carryOverflow →
      NoThreshold raw (.crashed Duration.Fault.carryOverflow.message)

theorem readThreshold_of_fault {raw : String} {fault : Duration.Fault}
    (hread : Duration.read (Text.trim raw.toList) = .error fault) (hne : fault ≠ .carryOverflow) :
    readThreshold raw =
      .error (.failed (.invalidDuration (String.ofList (Text.trim raw.toList)) fault)) := by
  cases fault with
  | carryOverflow => exact absurd rfl hne
  | _ => simp only [readThreshold, hread]

theorem readThreshold_of_ok {raw : String} {d : Duration}
    (hread : Duration.read (Text.trim raw.toList) = .ok d) :
    readThreshold raw =
      if d.wholeMicros = 0 then .error (refused "timing_threshold" raw) else .ok d := by
  simp only [readThreshold, hread]

theorem readThreshold_of_crash {raw : String}
    (hread : Duration.read (Text.trim raw.toList) = .error .carryOverflow) :
    readThreshold raw = .error (.crashed Duration.Fault.carryOverflow.message) := by
  simp only [readThreshold, hread]

theorem readThreshold_eq_ok_iff {raw : String} {d : Duration} :
    readThreshold raw = .ok d ↔ IsThreshold raw d := by
  rw [IsThreshold]
  cases hread : Duration.read (Text.trim raw.toList) with
  | error fault =>
      by_cases hcrash : fault = .carryOverflow
      · subst hcrash
        simp [readThreshold_of_crash hread]
      · simp [readThreshold_of_fault hread hcrash]
  | ok e =>
      rw [readThreshold_of_ok hread]
      by_cases hzero : e.wholeMicros = 0
      · rw [if_pos hzero]
        constructor
        · intro h
          cases h
        · intro h
          cases h.1
          omega
      · rw [if_neg hzero]
        constructor
        · intro h
          cases h
          exact ⟨rfl, by omega⟩
        · intro h
          rw [Except.ok.inj h.1]

theorem readThreshold_eq_error_iff {raw : String} {stop : Stop} :
    readThreshold raw = .error stop ↔ NoThreshold raw stop := by
  constructor
  · intro h
    cases hread : Duration.read (Text.trim raw.toList) with
    | error fault =>
        by_cases hcrash : fault = .carryOverflow
        · subst hcrash
          rw [readThreshold_of_crash hread] at h
          cases h
          exact .crash hread
        · rw [readThreshold_of_fault hread hcrash] at h
          cases h
          exact .malformed hread hcrash
    | ok d =>
        rw [readThreshold_of_ok hread] at h
        split at h
        · next hzero =>
            cases h
            exact .tooShort hread hzero
        · cases h
  · intro h
    cases h with
    | malformed hread hne => exact readThreshold_of_fault hread hne
    | tooShort hread hzero => rw [readThreshold_of_ok hread, if_pos hzero, refused]
    | crash hread => exact readThreshold_of_crash hread

end ProcessIntegrity.Settings
