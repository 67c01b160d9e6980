import ProcessIntegrity.Settings.File
/-!
# The form of a settings file

Which documents have the form of a settings file (`Fits`), said without regard to how they are read.
Reading goes through for these documents and no others (`exists_ofDocument_iff`): each entry is
taken in exactly if it may stand where it stands, and a fold of such steps, one level up, is a
single step again.
-/

namespace ProcessIntegrity.Settings

open Toml (Value)

/-! ## Documents of the form -/

inductive ProbeField : String → Value → Prop
  | exceptionCheck (on : Bool) : ProbeField "enable_exception_check" (.boolean on)
  | threshold (raw : String) : ProbeField "timing_threshold" (.string raw)
  | iterations {n : Int} : 0 ≤ n → n < UInt32.size →
      ProbeField "workload_iterations" (.integer n)
  | block (on : Bool) : ProbeField "block_on_detection" (.boolean on)

/-- What may stand in the section `logging`: anything under a name that means nothing there. -/
inductive LogField : String → Value → Prop
  | enable (on : Bool) : LogField "enable" (.boolean on)
  | file (path : String) : LogField "file" (.string path)
  | level (name : String) : LogField "level" (.string name)
  | other {name : String} (v : Value) : name ∉ ["enable", "file", "level"] → LogField name v

/-- A section is a table of its fields, or an array of the fields in their order, with at least
`least` of them; more items than fields do not matter. A date or time counts as a table with one
field, of a name that means nothing. -/
inductive SectionForm (names : List String) (least : Nat) (Field : String → Value → Prop) :
    Value → Prop
  | table {entries : List (String × Value)} : (∀ e ∈ entries, Field e.1 e.2) →
      SectionForm names least Field (.table entries)
  | array {items : List Value} : least ≤ items.length →
      (∀ (i : Nat) name v, names[i]? = some name → items[i]? = some v → Field name v) →
      SectionForm names least Field (.array items)
  | dateTime {written name : String} : name ∉ names → Field name (.string written) →
      SectionForm names least Field (.dateTime written)

inductive TopField : String → Value → Prop
  | probe {v : Value} : SectionForm File.probeFields 4 ProbeField v → TopField "probe" v
  | logging {v : Value} : SectionForm File.logFields 0 LogField v → TopField "logging" v

def Fits (document : List (String × Value)) : Prop :=
  ∀ e ∈ document, TopField e.1 e.2

/-! ## Taking values in -/

theorem bind_eq_ok_iff {ε α β : Type} {x : Except ε α} {f : α → Except ε β} {b : β} :
    x >>= f = .ok b ↔ ∃ a, x = .ok a ∧ f a = .ok b := by
  cases x with
  | error e => simp [bind, Except.bind]
  | ok a => simp [bind, Except.bind]

theorem boolean_eq_ok_iff {v : Value} {on : Bool} : File.boolean v = .ok on ↔ v = .boolean on := by
  cases v <;> simp [File.boolean]

theorem text_eq_ok_iff {v : Value} {s : String} : File.text v = .ok s ↔ v = .string s := by
  cases v <;> simp [File.text]

theorem count_eq_ok_iff {v : Value} {n : UInt32} :
    File.count v = .ok n ↔ v = .integer n.toNat := by
  cases v with
  | integer m =>
      have hn : n.toNat < UInt32.size := n.toNat_lt_size
      rw [File.count, Value.integer.injEq]
      by_cases hm : 0 ≤ m ∧ m.toNat < UInt32.size
      · rw [if_pos hm, Except.ok.injEq, ← UInt32.toNat_inj,
          UInt32.toNat_ofNat_of_lt' (by omega)]
        omega
      · rw [if_neg hm]
        constructor
        · intro h
          cases h
        · intro h
          omega
  | _ => simp [File.count]

/-! ## Taking fields in -/

inductive TakesProbe (s : ProbeSection) : String × Value → ProbeSection → Prop
  | exceptionCheck (on : Bool) :
      TakesProbe s ("enable_exception_check", .boolean on) { s with exceptionCheck := some on }
  | threshold (raw : String) :
      TakesProbe s ("timing_threshold", .string raw) { s with threshold := some raw }
  | iterations (n : UInt32) :
      TakesProbe s ("workload_iterations", .integer n.toNat) { s with iterations := some n }
  | block (on : Bool) :
      TakesProbe s ("block_on_detection", .boolean on) { s with block := some on }

inductive TakesLog (s : LogSettings) : String × Value → LogSettings → Prop
  | enable (on : Bool) : TakesLog s ("enable", .boolean on) { s with enabled := on }
  | file (path : String) : TakesLog s ("file", .string path) { s with file := some path }
  | level (name : String) : TakesLog s ("level", .string name) { s with level := name }
  | other {name : String} (v : Value) : name ∉ ["enable", "file", "level"] → TakesLog s (name, v) s

inductive TakesSection (f : File) : String × Value → File → Prop
  | probe {v : Value} {s : ProbeSection} : File.probeSection v = .ok s →
      TakesSection f ("probe", v) { f with probe := s }
  | logging {v : Value} {s : LogSettings} : File.logSection v = .ok s →
      TakesSection f ("logging", v) { f with logging := s }

theorem setProbeField_eq_ok_iff {s s' : ProbeSection} {e : String × Value} :
    File.setProbeField s e = .ok s' ↔ TakesProbe s e s' := by
  constructor
  · intro h
    unfold File.setProbeField at h
    split at h
    · obtain ⟨on, hv, hdone⟩ := bind_eq_ok_iff.1 h
      cases hdone
      rw [boolean_eq_ok_iff.1 hv]
      exact .exceptionCheck on
    · obtain ⟨raw, hv, hdone⟩ := bind_eq_ok_iff.1 h
      cases hdone
      rw [text_eq_ok_iff.1 hv]
      exact .threshold raw
    · obtain ⟨n, hv, hdone⟩ := bind_eq_ok_iff.1 h
      cases hdone
      rw [count_eq_ok_iff.1 hv]
      exact .iterations n
    · obtain ⟨on, hv, hdone⟩ := bind_eq_ok_iff.1 h
      cases hdone
      rw [boolean_eq_ok_iff.1 hv]
      exact .block on
    · cases h
  · intro h
    cases h with
    | exceptionCheck on => rfl
    | threshold raw => rfl
    | iterations n =>
        rw [File.setProbeField, bind_eq_ok_iff]
        exact ⟨n, count_eq_ok_iff.2 rfl, rfl⟩
    | block on => rfl

theorem setLogField_eq_ok_iff {s s' : LogSettings} {e : String × Value} :
    File.setLogField s e = .ok s' ↔ TakesLog s e s' := by
  constructor
  · intro h
    unfold File.setLogField at h
    split at h
    · obtain ⟨on, hv, hdone⟩ := bind_eq_ok_iff.1 h
      cases hdone
      rw [boolean_eq_ok_iff.1 hv]
      exact .enable on
    · obtain ⟨path, hv, hdone⟩ := bind_eq_ok_iff.1 h
      cases hdone
      rw [text_eq_ok_iff.1 hv]
      exact .file path
    · obtain ⟨name, hv, hdone⟩ := bind_eq_ok_iff.1 h
      cases hdone
      rw [text_eq_ok_iff.1 hv]
      exact .level name
    · next henable hfile hlevel =>
        cases h
        refine .other e.2 fun hmem => ?_
        simp only [List.mem_cons, List.not_mem_nil, or_false] at hmem
        rcases hmem with hname | hname | hname
        · exact henable e.2 (Prod.ext hname rfl)
        · exact hfile e.2 (Prod.ext hname rfl)
        · exact hlevel e.2 (Prod.ext hname rfl)
  · intro h
    cases h with
    | enable on => rfl
    | file path => rfl
    | level name => rfl
    | other v hname =>
        unfold File.setLogField
        split
        · next hsame =>
            cases hsame
            simp at hname
        · next hsame =>
            cases hsame
            simp at hname
        · next hsame =>
            cases hsame
            simp at hname
        · rfl

theorem setSection_eq_ok_iff {f f' : File} {e : String × Value} :
    File.setSection f e = .ok f' ↔ TakesSection f e f' := by
  constructor
  · intro h
    unfold File.setSection at h
    split at h
    · obtain ⟨s, hs, hdone⟩ := bind_eq_ok_iff.1 h
      cases hdone
      exact .probe hs
    · obtain ⟨s, hs, hdone⟩ := bind_eq_ok_iff.1 h
      cases hdone
      exact .logging hs
    · cases h
  · intro h
    cases h with
    | probe hs =>
        rw [File.setSection, bind_eq_ok_iff]
        exact ⟨_, hs, rfl⟩
    | logging hs =>
        rw [File.setSection, bind_eq_ok_iff]
        exact ⟨_, hs, rfl⟩

theorem exists_setProbeField_iff {s : ProbeSection} {e : String × Value} :
    (∃ s', File.setProbeField s e = .ok s') ↔ ProbeField e.1 e.2 := by
  simp only [setProbeField_eq_ok_iff]
  constructor
  · intro h
    obtain ⟨s', h⟩ := h
    cases h with
    | exceptionCheck on => exact .exceptionCheck on
    | threshold raw => exact .threshold raw
    | iterations n =>
        have hn : n.toNat < UInt32.size := n.toNat_lt_size
        exact .iterations (by omega) (by omega)
    | block on => exact .block on
  · obtain ⟨name, v⟩ := e
    intro h
    cases h with
    | exceptionCheck on => exact ⟨_, .exceptionCheck on⟩
    | threshold raw => exact ⟨_, .threshold raw⟩
    | @iterations n hlow hhigh =>
        have hn : ((UInt32.ofNat n.toNat).toNat : Int) = n := by
          rw [UInt32.toNat_ofNat_of_lt' (by omega)]
          omega
        rw [← hn]
        exact ⟨_, .iterations _⟩
    | block on => exact ⟨_, .block on⟩

theorem exists_setLogField_iff {s : LogSettings} {e : String × Value} :
    (∃ s', File.setLogField s e = .ok s') ↔ LogField e.1 e.2 := by
  simp only [setLogField_eq_ok_iff]
  constructor
  · intro h
    obtain ⟨s', h⟩ := h
    cases h with
    | enable on => exact .enable on
    | file path => exact .file path
    | level name => exact .level name
    | other v hname => exact .other v hname
  · obtain ⟨name, v⟩ := e
    intro h
    cases h with
    | enable on => exact ⟨_, .enable on⟩
    | file path => exact ⟨_, .file path⟩
    | level name => exact ⟨_, .level name⟩
    | other v hname => exact ⟨_, .other v hname⟩

/-! ## Taking entries in -/

/-- All entries can be taken in exactly if each may stand where it stands. -/
theorem exists_foldlM_iff {τ : Type} {set : τ → String × Value → Except FormFault τ}
    {Field : String → Value → Prop} {entries : List (String × Value)} {t : τ}
    (hset : ∀ {t e}, (∃ t', set t e = .ok t') ↔ Field e.1 e.2) :
    (∃ t', entries.foldlM set t = .ok t') ↔ ∀ e ∈ entries, Field e.1 e.2 := by
  induction entries generalizing t with
  | nil => simp [pure, Except.pure]
  | cons e later ih =>
      simp only [List.foldlM_cons, bind_eq_ok_iff, List.forall_mem_cons]
      -- Whether an entry can be taken in does not depend on what was taken in before it.
      constructor
      · intro h
        obtain ⟨t', next, hnext, hlater⟩ := h
        exact ⟨hset.1 ⟨next, hnext⟩, ih.1 ⟨t', hlater⟩⟩
      · intro h
        obtain ⟨next, hnext⟩ := hset.2 h.1
        obtain ⟨t', hlater⟩ := ih.2 h.2
        exact ⟨t', next, hnext, hlater⟩

/-! ## Sections -/

theorem mem_zip_iff {names : List String} {items : List Value} {name : String} {v : Value} :
    (name, v) ∈ names.zip items ↔ ∃ i : Nat, names[i]? = some name ∧ items[i]? = some v := by
  simp only [List.mem_iff_getElem?, List.getElem?_zip_eq_some]

/-- A section has its form exactly if each of its entries may stand in it. -/
theorem sectionForm_iff {names : List String} {least : Nat} {Field : String → Value → Prop}
    {body : Value} (hkey : File.dateTimeKey ∉ names)
    (hunknown : ∀ name v, name ∉ names → Field name v → Field File.dateTimeKey v) :
    SectionForm names least Field body ↔
      ∃ entries, File.fields? names body = some entries ∧ (∀ e ∈ entries, Field e.1 e.2) ∧
        ∀ items, body = .array items → least ≤ items.length := by
  constructor
  · intro h
    cases h with
    | table hfields => exact ⟨_, rfl, hfields, by simp⟩
    | array hleast hfields =>
        refine ⟨_, rfl, fun e he => ?_, fun items hitems => ?_⟩
        · obtain ⟨i, hi, hv⟩ := mem_zip_iff.1 he
          exact hfields i e.1 e.2 hi hv
        · cases hitems
          exact hleast
    | dateTime hname hfield =>
        refine ⟨_, rfl, fun e he => ?_, by simp⟩
        rw [List.mem_singleton.1 he]
        exact hunknown _ _ hname hfield
  · intro h
    obtain ⟨entries, hentries, hfields, hleast⟩ := h
    unfold File.fields? at hentries
    split at hentries
    · cases hentries
      exact .table hfields
    · cases hentries
      exact .array (hleast _ rfl) fun i name v hi hv =>
        hfields (name, v) (mem_zip_iff.2 ⟨i, hi, hv⟩)
    · cases hentries
      exact .dateTime hkey (hfields _ List.mem_cons_self)
    · cases hentries

theorem checkLength_eq_ok_iff {body : Value} :
    File.checkLength body = .ok () ↔ ∀ items, body = .array items → 4 ≤ items.length := by
  cases body with
  | array items =>
      have hcount : File.probeFields.length = 4 := rfl
      rw [File.checkLength, hcount]
      by_cases hshort : items.length < 4
      · rw [if_pos hshort]
        constructor
        · intro h
          cases h
        · intro h
          have hleast := h items rfl
          omega
      · rw [if_neg hshort]
        simp only [Value.array.injEq, forall_eq', true_iff]
        omega
  | _ => simp [File.checkLength]

theorem probeSection_eq_ok_iff {body : Value} {s : ProbeSection} :
    File.probeSection body = .ok s ↔
      ∃ entries, File.fields? File.probeFields body = some entries ∧
        entries.foldlM File.setProbeField {} = .ok s ∧
        ∀ items, body = .array items → 4 ≤ items.length := by
  rw [File.probeSection]
  cases File.fields? File.probeFields body with
  | none => simp
  | some entries =>
      simp only [bind_eq_ok_iff, Option.some.injEq, exists_eq_left', ← checkLength_eq_ok_iff]
      constructor
      · intro h
        obtain ⟨s', hs, _, hlength, hdone⟩ := h
        cases hdone
        exact ⟨hs, hlength⟩
      · intro h
        exact ⟨s, h.1, (), h.2, rfl⟩

theorem logSection_eq_ok_iff {body : Value} {s : LogSettings} :
    File.logSection body = .ok s ↔
      ∃ entries, File.fields? File.logFields body = some entries ∧
        entries.foldlM File.setLogField .default = .ok s := by
  rw [File.logSection]
  cases File.fields? File.logFields body with
  | none => simp
  | some entries => simp

theorem exists_probeSection_iff {body : Value} :
    (∃ s, File.probeSection body = .ok s) ↔ SectionForm File.probeFields 4 ProbeField body := by
  have hunknown : ∀ name v, name ∉ File.probeFields → ProbeField name v →
      ProbeField File.dateTimeKey v := by
    intro name v hname h
    cases h <;> simp [File.probeFields] at hname
  have hfold : ∀ entries : List (String × Value),
      (∃ s, entries.foldlM File.setProbeField {} = .ok s) ↔ ∀ e ∈ entries, ProbeField e.1 e.2 :=
    fun _ => exists_foldlM_iff exists_setProbeField_iff
  rw [sectionForm_iff (by decide) hunknown]
  simp only [probeSection_eq_ok_iff, ← hfold]
  constructor
  · intro h
    obtain ⟨s, entries, hentries, hs, hlength⟩ := h
    exact ⟨entries, hentries, ⟨s, hs⟩, hlength⟩
  · intro h
    obtain ⟨entries, hentries, ⟨s, hs⟩, hlength⟩ := h
    exact ⟨s, entries, hentries, hs, hlength⟩

theorem exists_logSection_iff {body : Value} :
    (∃ s, File.logSection body = .ok s) ↔ SectionForm File.logFields 0 LogField body := by
  have hunknown : ∀ name v, name ∉ File.logFields → LogField name v →
      LogField File.dateTimeKey v := fun _ v _ _ => .other v (by decide)
  have hfold : ∀ entries : List (String × Value),
      (∃ s, entries.foldlM File.setLogField .default = .ok s) ↔ ∀ e ∈ entries, LogField e.1 e.2 :=
    fun _ => exists_foldlM_iff exists_setLogField_iff
  rw [sectionForm_iff (by decide) hunknown]
  simp only [logSection_eq_ok_iff, ← hfold]
  constructor
  · intro h
    obtain ⟨s, entries, hentries, hs⟩ := h
    exact ⟨entries, hentries, ⟨s, hs⟩, fun items _ => Nat.zero_le items.length⟩
  · intro h
    obtain ⟨entries, hentries, ⟨s, hs⟩, _⟩ := h
    exact ⟨s, entries, hentries, hs⟩

theorem exists_setSection_iff {f : File} {e : String × Value} :
    (∃ f', File.setSection f e = .ok f') ↔ TopField e.1 e.2 := by
  simp only [setSection_eq_ok_iff]
  constructor
  · intro h
    obtain ⟨f', h⟩ := h
    cases h with
    | probe hs => exact .probe (exists_probeSection_iff.1 ⟨_, hs⟩)
    | logging hs => exact .logging (exists_logSection_iff.1 ⟨_, hs⟩)
  · obtain ⟨name, body⟩ := e
    intro h
    cases h with
    | probe hbody =>
        obtain ⟨s, hs⟩ := exists_probeSection_iff.2 hbody
        exact ⟨_, .probe hs⟩
    | logging hbody =>
        obtain ⟨s, hs⟩ := exists_logSection_iff.2 hbody
        exact ⟨_, .logging hs⟩

/-- Reading a document as a settings file goes through exactly if it has the form of one. -/
theorem exists_ofDocument_iff {document : List (String × Value)} :
    (∃ file, File.ofDocument document = .ok file) ↔ Fits document :=
  exists_foldlM_iff exists_setSection_iff

end ProcessIntegrity.Settings
