import Mathlib
import ProcessIntegrity.Proofs.Settings.Overriding
/-!
# Spellings that do not matter

The texts of variables can be spelled in several ways: with other blanks around them, and for truth
values in letters of another case. Overriding comes to the same for all spellings. Where it fails,
it fails at the same variable, and the failures differ in nothing but the text, if they show it at all
(`override_respelled`).
-/

namespace ProcessIntegrity

namespace Text

/-- The same character, or an ASCII letter in its two cases. Other letters have no case here. -/
def SameButCase (c d : Char) : Prop :=
  c = d ∨ c.toLower = d ∨ c = d.toLower

theorem SameButCase.toLower_eq {c d : Char} (h : SameButCase c d) : c.toLower = d.toLower := by
  rcases h with rfl | rfl | rfl
  · rfl
  · exact (Char.toLower_toLower_eq_toLower c).symm
  · exact Char.toLower_toLower_eq_toLower d

theorem map_toLower_eq {s s' : List Char} (h : List.Forall₂ SameButCase s s') :
    s.map Char.toLower = s'.map Char.toLower := by
  induction h with
  | nil => rfl
  | cons hfirst _ ih => rw [List.map_cons, List.map_cons, hfirst.toLower_eq, ih]

theorem isBlank_of_isAlpha {c : Char} (h : c.isAlpha = true) : isBlank c = false := by
  have hrange : (65 ≤ c.toNat ∧ c.toNat ≤ 90) ∨ 97 ≤ c.toNat ∧ c.toNat ≤ 122 := by
    simpa [Char.isAlpha, Char.isUpper, Char.isLower, UInt32.le_iff_toNat_le] using h
  simp only [isBlank, Bool.or_eq_false_iff, Bool.and_eq_false_iff, decide_eq_false_iff_not,
    beq_eq_false_iff_ne]
  omega

/-- A letter is no blank, and neither is its lower case. -/
theorem isBlank_toLower (c : Char) : isBlank c.toLower = isBlank c := by
  by_cases hupper : c.isUpper = true
  · have hletter : c.isAlpha = true := by rw [Char.isAlpha, hupper, Bool.true_or]
    have hlower : c.toLower.isAlpha = true := by rwa [Char.isAlpha_toLower_eq_isAlpha]
    rw [isBlank_of_isAlpha hlower, isBlank_of_isAlpha hletter]
  · rw [Char.toLower_eq_of_not_isUpper hupper]

/-- Texts that differ in blanks around them and in case are the same word. -/
theorem map_toLower_trim_eq {core core' s s' : List Char} (hs : Padded core s)
    (hs' : Padded core' s') (hcore : List.Forall₂ SameButCase core core') :
    (trim s).map Char.toLower = (trim s').map Char.toLower := by
  rw [hs.trim_eq, hs'.trim_eq, ← trim_map isBlank_toLower, ← trim_map isBlank_toLower,
    map_toLower_eq hcore]

end Text

namespace Settings

/-! ## Spellings of a value -/

def Override.IsTruth (o : Override) : Prop :=
  o = .exceptionCheck ∨ o = .block

/-- The second text is the first with blanks taken away and added at its ends and, for a truth
value, with letters in another case. -/
inductive Override.Respells (o : Override) (raw raw' : String) : Prop
  | padded {core : List Char} : Text.Padded core raw.toList → Text.Padded core raw'.toList →
      Respells o raw raw'
  | recased {core core' : List Char} : o.IsTruth → Text.Padded core raw.toList →
      Text.Padded core' raw'.toList → List.Forall₂ Text.SameButCase core core' →
      Respells o raw raw'

/-- The environments have the same variables, and each value of the second is one of the first
spelled in another way. -/
def Respelled (env env' : Environment) : Prop :=
  ∀ o : Override, Option.Rel o.Respells (env o.variableName) (env' o.variableName)

/-- How one variable stops overriding for two spellings of its value: by the same failure, or by one
that shows the spelling. -/
inductive Override.StopsAlike : Override → String → String → Stop → Stop → Prop
  | noWord {o : Override} {raw raw' : String} : o.IsTruth →
      StopsAlike o raw raw' (.failed (.invalidValue o.variableName raw))
        (.failed (.invalidValue o.variableName raw'))
  | noDuration {raw raw' text : String} {fault : Duration.Fault} :
      StopsAlike .threshold raw raw' (.failed (.invalidDuration text fault))
        (.failed (.invalidDuration text fault))
  | tooShort {raw raw' : String} :
      StopsAlike .threshold raw raw' (.failed (.invalidValue "timing_threshold" raw))
        (.failed (.invalidValue "timing_threshold" raw'))
  | crash {raw raw' message : String} :
      StopsAlike .threshold raw raw' (.crashed message) (.crashed message)
  | noNumber {raw raw' : String} :
      Text.readUnsigned? UInt32.size (Text.trim raw.toList) = none →
      StopsAlike .iterations raw raw'
        (.failed (.invalidValue Override.iterations.variableName raw))
        (.failed (.invalidValue Override.iterations.variableName raw'))
  | outOfBounds {raw raw' : String} {n : UInt32} :
      Text.readUnsigned? UInt32.size (Text.trim raw.toList) = some n.toNat → OutOfBounds n →
      StopsAlike .iterations raw raw'
        (.failed (.invalidValue Override.iterations.variableName (toString n)))
        (.failed (.invalidValue Override.iterations.variableName (toString n)))

/-! ## Reading a value -/

inductive Override.ReadsAlike (o : Override) (raw raw' : String) :
    Except Stop Change → Except Stop Change → Prop
  | same (c : Change) : ReadsAlike o raw raw' (.ok c) (.ok c)
  | stopped {stop stop' : Stop} : o.StopsAlike raw raw' stop stop' →
      ReadsAlike o raw raw' (.error stop) (.error stop')

section

variable {o : Override} {raw raw' : String}

theorem Override.Respells.map_toLower_trim_eq (h : o.Respells raw raw') :
    (Text.trim raw.toList).map Char.toLower = (Text.trim raw'.toList).map Char.toLower := by
  cases h with
  | padded hraw hraw' => rw [hraw.trim_eq, hraw'.trim_eq]
  | recased _ hraw hraw' hcore => exact Text.map_toLower_trim_eq hraw hraw' hcore

theorem Override.Respells.trim_eq (h : o.Respells raw raw') (ho : ¬ o.IsTruth) :
    Text.trim raw.toList = Text.trim raw'.toList := by
  cases h with
  | padded hraw hraw' => rw [hraw.trim_eq, hraw'.trim_eq]
  | recased htruth _ _ _ => exact absurd htruth ho

theorem readsAlike_readBool (ho : o.IsTruth) (make : Bool → Change)
    (h : o.Respells raw raw') :
    o.ReadsAlike raw raw' (make <$> readBool o.variableName raw)
      (make <$> readBool o.variableName raw') := by
  have hsame : truthValue? raw' = truthValue? raw := by
    rw [truthValue?, truthValue?, h.map_toLower_trim_eq]
  unfold readBool
  rw [hsame]
  cases truthValue? raw with
  | none => exact .stopped (.noWord ho)
  | some on => exact .same (make on)

theorem readsAlike_readThreshold (h : Text.trim raw.toList = Text.trim raw'.toList) :
    Override.threshold.ReadsAlike raw raw' (Change.threshold <$> readThreshold raw)
      (Change.threshold <$> readThreshold raw') := by
  cases hread : Duration.read (Text.trim raw.toList) with
  | error fault =>
      have hread' := hread
      rw [h] at hread'
      by_cases hcrash : fault = .carryOverflow
      · subst hcrash
        rw [readThreshold_of_crash hread, readThreshold_of_crash hread']
        exact .stopped .crash
      · rw [readThreshold_of_fault hread hcrash, readThreshold_of_fault hread' hcrash, h]
        exact .stopped .noDuration
  | ok d =>
      have hread' := hread
      rw [h] at hread'
      rw [readThreshold_of_ok hread, readThreshold_of_ok hread']
      split
      · exact .stopped .tooShort
      · exact .same (.threshold d)

theorem readsAlike_readIterations (h : Text.trim raw.toList = Text.trim raw'.toList) :
    Override.iterations.ReadsAlike raw raw'
      (Change.iterations <$> readIterations Override.iterations.variableName raw)
      (Change.iterations <$> readIterations Override.iterations.variableName raw') := by
  rcases readIterations_cases Override.iterations.variableName raw with
    ⟨n, hn, hread⟩ | ⟨hnone, hread⟩
  · have hn' := hn
    rw [h] at hn'
    rw [hread, readIterations_of_count hn']
    by_cases hbounds : OutOfBounds n
    · rw [checkIterations_of_outOfBounds _ hbounds]
      exact .stopped (.outOfBounds hn hbounds)
    · rw [checkIterations_of_not_outOfBounds _ hbounds]
      exact .same (.iterations n)
  · have hread' : readIterations Override.iterations.variableName raw' =
        .error (refused Override.iterations.variableName raw') := by
      rw [readIterations, ← h, hnone]
    rw [hread, hread']
    exact .stopped (.noNumber hnone)

/-- A value is read alike in all its spellings. -/
theorem readsAlike_of_respells (h : o.Respells raw raw') :
    o.ReadsAlike raw raw' (o.read raw) (o.read raw') := by
  cases o with
  | exceptionCheck => exact readsAlike_readBool (.inl rfl) .exceptionCheck h
  | threshold => exact readsAlike_readThreshold (h.trim_eq (by simp [Override.IsTruth]))
  | iterations => exact readsAlike_readIterations (h.trim_eq (by simp [Override.IsTruth]))
  | block => exact readsAlike_readBool (.inr rfl) .block h
  | level =>
      have hlevel : Text.trimString raw' = Text.trimString raw := by
        rw [Text.trimString, Text.trimString, h.trim_eq (by simp [Override.IsTruth])]
      simp only [Override.read, hlevel]
      exact .same _

end

/-! ## Overriding -/

/-- Two runs leave the same settings and ask for the same variables. Both go through, or the last
variable asked for stops both alike. -/
inductive Alike (env env' : Environment) : Overridden → Overridden → Prop
  | through (s : Settings) (lookups : List String) :
      Alike env env' ⟨s, lookups, .ok ()⟩ ⟨s, lookups, .ok ()⟩
  | stopped (s : Settings) (before : List String) {o : Override} {raw raw' : String}
      {stop stop' : Stop} : env o.variableName = some raw → env' o.variableName = some raw' →
      o.StopsAlike raw raw' stop stop' →
      Alike env env' ⟨s, before ++ [o.variableName], .error stop⟩
        ⟨s, before ++ [o.variableName], .error stop'⟩

section

variable {env env' : Environment}

theorem Alike.asked {r r' : Overridden} (h : Alike env env' r r') (name : String) :
    Alike env env' { r with lookups := name :: r.lookups }
      { r' with lookups := name :: r'.lookups } := by
  cases h with
  | through s lookups => exact .through s (name :: lookups)
  | stopped s before hraw hraw' hstop => exact .stopped s (name :: before) hraw hraw' hstop

theorem Respelled.absent_or_present (h : Respelled env env') (o : Override) :
    (env o.variableName = none ∧ env' o.variableName = none) ∨
      ∃ raw raw', env o.variableName = some raw ∧ env' o.variableName = some raw' ∧
        o.Respells raw raw' := by
  have ho := h o
  generalize env o.variableName = value, env' o.variableName = value' at ho ⊢
  cases ho with
  | none => exact .inl ⟨rfl, rfl⟩
  | some hspelled => exact .inr ⟨_, _, rfl, rfl, hspelled⟩

/-- The induction is on the variables: each is absent from both environments, or its two values ask
for the same change, or they stop both runs. -/
theorem alike_overrideWith (h : Respelled env env') (s : Settings) (os : List Override) :
    Alike env env' (overrideWith env s os) (overrideWith env' s os) := by
  induction os generalizing s with
  | nil => exact .through s []
  | cons o later ih =>
      rcases h.absent_or_present o with ⟨hraw, hraw'⟩ | ⟨raw, raw', hraw, hraw', hspelled⟩
      · rw [overrideWith_absent hraw, overrideWith_absent hraw']
        exact (ih s).asked o.variableName
      · have halike := readsAlike_of_respells hspelled
        generalize hread : o.read raw = r, hread' : o.read raw' = r' at halike
        cases halike with
        | same c =>
            rw [overrideWith_means hraw (Override.read_eq_ok_iff.1 hread),
              overrideWith_means hraw' (Override.read_eq_ok_iff.1 hread')]
            exact (ih (c.apply s)).asked o.variableName
        | stopped hstop =>
            rw [overrideWith_stopped hraw hread, overrideWith_stopped hraw' hread']
            exact .stopped s [] hraw hraw' hstop

end

/-! ## Words -/

/-- The words are ASCII, and no other letter has a lower case here. -/
theorem lt_of_mem_word {on : Bool} {word : List Char}
    (h : String.ofList (word.map Char.toLower) ∈ wordsFor on) : ∀ c ∈ word, c.toNat < 128 := by
  have hwords : ∀ on, ∀ w ∈ wordsFor on, w.toList.all (·.toNat < 128) = true := by decide
  have hword := hwords on _ h
  rw [String.toList_ofList, List.all_map, List.all_eq_true] at hword
  intro c hc
  have hlower : c.toLower.toNat < 128 := of_decide_eq_true (hword c hc)
  by_cases hupper : c.isUpper = true
  · have hletter : 65 ≤ c.toNat ∧ c.toNat ≤ 90 := by
      simpa [Char.isUpper, UInt32.le_iff_toNat_le] using hupper
    omega
  · rwa [Char.toLower_eq_of_not_isUpper hupper] at hlower

/-- A word for a truth value has no characters beyond ASCII but the blanks around it. -/
theorem isBlank_of_spells {on : Bool} {raw : String} (h : Spells on raw) {c : Char}
    (hc : c ∈ raw.toList) (hlarge : 128 ≤ c.toNat) : Text.isBlank c = true := by
  obtain ⟨before, word, after, hsplit, hbefore, hafter, hword⟩ := h
  rw [hsplit] at hc
  rcases List.mem_append.1 hc with hc | hc
  · rcases List.mem_append.1 hc with hc | hc
    · exact hbefore c hc
    · exact absurd (lt_of_mem_word hword c hc) (Nat.not_lt.2 hlarge)
  · exact hafter c hc

theorem readBool_of_beyond {key raw : String} {c : Char} (hc : c ∈ raw.toList)
    (hlarge : 128 ≤ c.toNat) (hblank : Text.isBlank c = false) :
    readBool key raw = .error (.failed (.invalidValue key raw)) := by
  refine readBool_eq_failed_iff.2 ⟨fun on hspells => ?_, rfl⟩
  rw [isBlank_of_spells hspells hc hlarge] at hblank
  cases hblank

/-- Environments with the same values in other spellings override to the same settings. They ask for
the same variables, so that the last of these, if its value is refused, is the same in both. A
malformed duration and a number of iterations out of bounds are then reported alike, and every other
failure with the text as it is spelled. A truth value is one of five words for each, in any case and
with any blanks around it, so that no other character beyond ASCII is ever in one. -/
theorem override_respelled {env env' : Environment} (h : Respelled env env') (s : Settings) :
    let r := override s env
    let r' := override s env'
    r'.settings = r.settings ∧ r'.lookups = r.lookups ∧
    (r'.result = .ok () ↔ r.result = .ok ()) ∧
    (∀ stop, r.result = .error stop → ∃ (o : Override) (raw raw' : String) (stop' : Stop),
      r.lookups.getLast? = some o.variableName ∧ env o.variableName = some raw ∧
      env' o.variableName = some raw' ∧ r'.result = .error stop' ∧
      o.StopsAlike raw raw' stop stop') ∧
    (∀ key raw, let word := String.ofList ((Text.trim raw.toList).map Char.toLower)
      (readBool key raw = .ok true ↔ word ∈ ["1", "true", "yes", "enabled", "on"]) ∧
      (readBool key raw = .ok false ↔ word ∈ ["0", "false", "no", "disabled", "off"])) ∧
    ∀ key raw, (∃ c ∈ raw.toList, 128 ≤ c.toNat ∧ Text.isBlank c = false) →
      readBool key raw = .error (.failed (.invalidValue key raw)) := by
  intro r r'
  have halike : Alike env env' r r' := alike_overrideWith h s Override.all
  generalize r = run, r' = run' at halike
  refine ⟨?_, ?_, ?_, ?_, ?_, ?_⟩
  · cases halike <;> rfl
  · cases halike <;> rfl
  · cases halike <;> simp
  · rintro stop hstop
    cases halike with
    | through => cases hstop
    | stopped s before hraw hraw' halike =>
        cases hstop
        exact ⟨_, _, _, _, List.getLast?_concat, hraw, hraw', rfl, halike⟩
  · intro key raw word
    have hspells (on : Bool) : Spells on raw ↔ word ∈ wordsFor on :=
      truthValue?_eq_some_iff.symm.trans truthValue?_eq_some_iff_mem
    exact ⟨readBool_eq_ok_iff.trans (hspells true), readBool_eq_ok_iff.trans (hspells false)⟩
  · rintro key raw ⟨c, hc, hlarge, hblank⟩
    exact readBool_of_beyond hc hlarge hblank

def retuned (block : String) : Environment
  | "NATIVE_GUARD_TIMING_THRESHOLD" => some "2ms"
  | "NATIVE_GUARD_WORKLOAD_ITERATIONS" => some "\u3000+03\t"
  | "NATIVE_GUARD_BLOCK_ON_DETECTION" => some block
  | "NATIVE_GUARD_LOG_LEVEL" => some "\u00a0debug"
  | _ => none

theorem respelled_retuned {block block' : String} (h : Override.block.Respells block block') :
    Respelled (tuned block) (retuned block') := by
  intro o
  cases o with
  | exceptionCheck => exact .none
  | threshold =>
      have hraw : Text.Padded ['2', 'm', 's'] " 2ms ".toList :=
        Text.padded_of_all [' '] [' '] rfl rfl rfl
      have hraw' : Text.Padded ['2', 'm', 's'] "2ms".toList := Text.padded_of_all [] [] rfl rfl rfl
      exact .some (.padded hraw hraw')
  | iterations =>
      have hraw : Text.Padded ['+', '0', '3'] "+03".toList := Text.padded_of_all [] [] rfl rfl rfl
      have hraw' : Text.Padded ['+', '0', '3'] "\u3000+03\t".toList :=
        Text.padded_of_all ['\u3000'] ['\t'] rfl rfl rfl
      exact .some (.padded hraw hraw')
  | block => exact .some h
  | level =>
      have hraw : Text.Padded "debug".toList "debug\n".toList :=
        Text.padded_of_all [] ['\n'] rfl rfl rfl
      have hraw' : Text.Padded "debug".toList "\u00a0debug".toList :=
        Text.padded_of_all ['\u00a0'] [] rfl rfl rfl
      exact .some (.padded hraw hraw')

theorem override_respelled_retuned :
    let s := Build.settings {}
    let key := "NATIVE_GUARD_BLOCK_ON_DETECTION"
    (Respelled (tuned "Off") (retuned " oFF\u2028") ∧
      (override s (retuned " oFF\u2028")).settings = (override s (tuned "Off")).settings ∧
      (override s (tuned "Off")).settings =
        ⟨⟨false, ⟨0, 2000000, by decide, by decide⟩, 3⟩, false, ⟨false, none, "debug"⟩⟩ ∧
      (override s (retuned " oFF\u2028")).result = .ok ()) ∧
    (Respelled (tuned "perhaps") (retuned "\tPerhaps") ∧
      ∃ (o : Override) (raw raw' : String) (stop' : Stop),
        tuned "perhaps" o.variableName = some raw ∧
        retuned "\tPerhaps" o.variableName = some raw' ∧
        (override s (retuned "\tPerhaps")).result = .error stop' ∧
        o.StopsAlike raw raw' (.failed (.invalidValue key "perhaps")) stop') ∧
    readBool key "ye\u017f" = .error (.failed (.invalidValue key "ye\u017f")) := by
  intro s key
  have hoff : Respelled (tuned "Off") (retuned " oFF\u2028") := by
    have hraw : Text.Padded ['O', 'f', 'f'] "Off".toList := Text.padded_of_all [] [] rfl rfl rfl
    have hraw' : Text.Padded ['o', 'F', 'F'] " oFF\u2028".toList :=
      Text.padded_of_all [' '] ['\u2028'] rfl rfl rfl
    have hcore : List.Forall₂ Text.SameButCase ['O', 'f', 'f'] ['o', 'F', 'F'] :=
      .cons (.inr (.inl rfl)) (.cons (.inr (.inr rfl)) (.cons (.inr (.inr rfl)) .nil))
    exact respelled_retuned (.recased (.inr rfl) hraw hraw' hcore)
  have hperhaps : Respelled (tuned "perhaps") (retuned "\tPerhaps") := by
    have hraw : Text.Padded "perhaps".toList "perhaps".toList :=
      Text.padded_of_all [] [] rfl rfl rfl
    have hraw' : Text.Padded "Perhaps".toList "\tPerhaps".toList :=
      Text.padded_of_all ['\t'] [] rfl rfl rfl
    have hcore : List.Forall₂ Text.SameButCase "perhaps".toList "Perhaps".toList :=
      .cons (.inr (.inr rfl)) (List.forall₂_same.2 fun c _ => .inl rfl)
    exact respelled_retuned (.recased (.inr rfl) hraw hraw' hcore)
  obtain ⟨hsettings, -, hok, -⟩ := override_respelled hoff s
  obtain ⟨-, -, -, hstops, -, hbeyond⟩ := override_respelled hperhaps s
  obtain ⟨o, raw, raw', stop', -, hraw, hraw', hstop', halike⟩ := hstops _ rfl
  exact ⟨⟨hoff, hsettings, by decide +kernel, hok.2 rfl⟩,
    ⟨hperhaps, o, raw, raw', stop', hraw, hraw', hstop', halike⟩,
    hbeyond key "ye\u017f" ⟨'\u017f', by decide, by decide, by decide⟩⟩

end Settings

end ProcessIntegrity
