import ProcessIntegrity.Proofs.Settings.Changes
import ProcessIntegrity.Proofs.Settings.Reading
/-!
# What the value of a variable means

For each setting that a variable can override, which texts mean which value (`Override.Means`), and
how the others are refused (`Override.Refuses`). Reading a text gives exactly what it means, and
fails exactly as it is refused. Neither depends on the settings that are overridden.
-/

namespace ProcessIntegrity.Settings

namespace Override

inductive Means : Override → String → Change → Prop
  | exceptionCheck {raw : String} {on : Bool} : Spells on raw →
      Means .exceptionCheck raw (.exceptionCheck on)
  | threshold {raw : String} {d : Duration} : IsThreshold raw d →
      Means .threshold raw (.threshold d)
  | iterations {raw : String} {n : UInt32} :
      Text.readUnsigned? UInt32.size (Text.trim raw.toList) = some n.toNat → ¬ OutOfBounds n →
      Means .iterations raw (.iterations n)
  | block {raw : String} {on : Bool} : Spells on raw → Means .block raw (.block on)
  | level {raw : String} : Means .level raw (.level (Text.trimString raw))

/-- How a text is refused as the value of the setting. A level never is. -/
inductive Refuses : Override → String → Failure → Prop
  | noWord {o : Override} {raw : String} : o = .exceptionCheck ∨ o = .block →
      (∀ on, ¬ Spells on raw) → Refuses o raw (.invalidValue o.variableName raw)
  | noDuration {raw : String} {fault : Duration.Fault} :
      Duration.read (Text.trim raw.toList) = .error fault → fault ≠ .carryOverflow →
      Refuses .threshold raw (.invalidDuration (Text.trimString raw) fault)
  | tooShort {raw : String} {d : Duration} : Duration.read (Text.trim raw.toList) = .ok d →
      d.wholeMicros = 0 → Refuses .threshold raw (.invalidValue "timing_threshold" raw)
  | noNumber {raw : String} : Text.readUnsigned? UInt32.size (Text.trim raw.toList) = none →
      Refuses .iterations raw (.invalidValue Override.iterations.variableName raw)
  | outOfBounds {raw : String} {n : UInt32} :
      Text.readUnsigned? UInt32.size (Text.trim raw.toList) = some n.toNat → OutOfBounds n →
      Refuses .iterations raw (.invalidValue Override.iterations.variableName (toString n))

end Override

/-! ## Single values -/

theorem readBool_eq_ok_iff {key raw : String} {on : Bool} :
    readBool key raw = .ok on ↔ Spells on raw := by
  rw [← truthValue?_eq_some_iff, readBool]
  cases truthValue? raw <;> simp

theorem readBool_eq_failed_iff {key raw : String} {why : Failure} :
    readBool key raw = .error (.failed why) ↔
      (∀ on, ¬ Spells on raw) ∧ why = .invalidValue key raw := by
  simp only [← truthValue?_eq_some_iff]
  rw [readBool]
  cases truthValue? raw <;> simp [refused, eq_comm]

theorem toNat_ofNat_of_read {raw : String} {n : Nat}
    (h : Text.readUnsigned? UInt32.size (Text.trim raw.toList) = some n) :
    (UInt32.ofNat n).toNat = n :=
  UInt32.toNat_ofNat_of_lt' (Text.readUnsigned?_lt h)

/-- A text of a number is read as that number is checked; any other text is refused as it is. -/
theorem readIterations_cases (key raw : String) :
    (∃ n : UInt32, Text.readUnsigned? UInt32.size (Text.trim raw.toList) = some n.toNat ∧
        readIterations key raw = checkIterations key n) ∨
      Text.readUnsigned? UInt32.size (Text.trim raw.toList) = none ∧
        readIterations key raw = .error (refused key raw) := by
  rw [readIterations]
  cases hread : Text.readUnsigned? UInt32.size (Text.trim raw.toList) with
  | none => exact .inr ⟨rfl, rfl⟩
  | some n => exact .inl ⟨UInt32.ofNat n, by rw [toNat_ofNat_of_read hread], rfl⟩

theorem checkIterations_eq_ok_iff {key : String} {n m : UInt32} :
    checkIterations key n = .ok m ↔ ¬ OutOfBounds n ∧ n = m := by
  by_cases hbounds : OutOfBounds n
  · simp [checkIterations_of_outOfBounds key hbounds, hbounds]
  · simp [checkIterations_of_not_outOfBounds key hbounds, hbounds]

theorem checkIterations_eq_failed_iff {key : String} {n : UInt32} {why : Failure} :
    checkIterations key n = .error (.failed why) ↔
      OutOfBounds n ∧ why = .invalidValue key (toString n) := by
  by_cases hbounds : OutOfBounds n
  · simp [checkIterations_of_outOfBounds key hbounds, hbounds, refused, eq_comm]
  · simp [checkIterations_of_not_outOfBounds key hbounds, hbounds]

namespace Override

theorem read_eq_ok_iff {o : Override} {raw : String} {c : Change} :
    o.read raw = .ok c ↔ o.Means raw c := by
  constructor
  · intro h
    cases o with
    | exceptionCheck =>
        obtain ⟨on, hon, rfl⟩ := map_eq_ok_iff.1 h
        exact .exceptionCheck (readBool_eq_ok_iff.1 hon)
    | threshold =>
        obtain ⟨d, hd, rfl⟩ := map_eq_ok_iff.1 h
        exact .threshold (readThreshold_eq_ok_iff.1 hd)
    | iterations =>
        obtain ⟨m, hm, rfl⟩ := map_eq_ok_iff.1 h
        rcases readIterations_cases Override.iterations.variableName raw with
          ⟨n, hn, hread⟩ | ⟨_, hread⟩
        · rw [hread] at hm
          obtain ⟨hbounds, rfl⟩ := checkIterations_eq_ok_iff.1 hm
          exact .iterations hn hbounds
        · rw [hread] at hm
          cases hm
    | block =>
        obtain ⟨on, hon, rfl⟩ := map_eq_ok_iff.1 h
        exact .block (readBool_eq_ok_iff.1 hon)
    | level =>
        cases h
        exact .level
  · intro h
    cases h with
    | exceptionCheck hon => exact map_eq_ok_iff.2 ⟨_, readBool_eq_ok_iff.2 hon, rfl⟩
    | threshold hd => exact map_eq_ok_iff.2 ⟨_, readThreshold_eq_ok_iff.2 hd, rfl⟩
    | iterations hn hbounds =>
        have hread : readIterations Override.iterations.variableName raw = .ok _ :=
          (readIterations_of_count hn).trans (checkIterations_eq_ok_iff.2 ⟨hbounds, rfl⟩)
        exact map_eq_ok_iff.2 ⟨_, hread, rfl⟩
    | block hon => exact map_eq_ok_iff.2 ⟨_, readBool_eq_ok_iff.2 hon, rfl⟩
    | level => rfl

theorem read_eq_failed_iff {o : Override} {raw : String} {why : Failure} :
    o.read raw = .error (.failed why) ↔ o.Refuses raw why := by
  constructor
  · intro h
    cases o with
    | exceptionCheck =>
        obtain ⟨hnone, rfl⟩ := readBool_eq_failed_iff.1 (map_eq_error_iff.1 h)
        exact .noWord (.inl rfl) hnone
    | threshold =>
        cases readThreshold_eq_error_iff.1 (map_eq_error_iff.1 h) with
        | malformed hread hne => exact .noDuration hread hne
        | tooShort hread hzero => exact .tooShort hread hzero
    | iterations =>
        have hread := map_eq_error_iff.1 h
        rcases readIterations_cases Override.iterations.variableName raw with
          ⟨n, hn, hcheck⟩ | ⟨hnone, hrefused⟩
        · rw [hcheck] at hread
          obtain ⟨hbounds, rfl⟩ := checkIterations_eq_failed_iff.1 hread
          exact .outOfBounds hn hbounds
        · rw [hrefused] at hread
          cases hread
          exact .noNumber hnone
    | block =>
        obtain ⟨hnone, rfl⟩ := readBool_eq_failed_iff.1 (map_eq_error_iff.1 h)
        exact .noWord (.inr rfl) hnone
    | level => cases h
  · intro h
    cases h with
    | noWord ho hnone =>
        rcases ho with rfl | rfl
        · exact map_eq_error_iff.2 (readBool_eq_failed_iff.2 ⟨hnone, rfl⟩)
        · exact map_eq_error_iff.2 (readBool_eq_failed_iff.2 ⟨hnone, rfl⟩)
    | noDuration hread hne =>
        exact map_eq_error_iff.2 (readThreshold_eq_error_iff.2 (.malformed hread hne))
    | tooShort hread hzero =>
        exact map_eq_error_iff.2 (readThreshold_eq_error_iff.2 (.tooShort hread hzero))
    | noNumber hnone =>
        refine map_eq_error_iff.2 ?_
        rw [readIterations, hnone]
        rfl
    | outOfBounds hn hbounds =>
        have hread : readIterations Override.iterations.variableName raw = .error (.failed _) :=
          (readIterations_of_count hn).trans (checkIterations_eq_failed_iff.2 ⟨hbounds, rfl⟩)
        exact map_eq_error_iff.2 hread

/-- A text means one thing at most. -/
theorem Means.unique {o : Override} {raw : String} {c c' : Change} (h : o.Means raw c)
    (h' : o.Means raw c') : c = c' := by
  have hread := read_eq_ok_iff.2 h
  rw [read_eq_ok_iff.2 h'] at hread
  exact (Except.ok.inj hread).symm

end Override

end ProcessIntegrity.Settings
