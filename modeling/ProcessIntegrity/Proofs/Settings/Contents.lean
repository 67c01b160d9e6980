import Mathlib.Data.List.Nodup
import ProcessIntegrity.Proofs.Settings.Form
import ProcessIntegrity.Proofs.Toml.Sound
/-!
# What a settings file says

A document says something about a field if the section that the field belongs to gives it a value,
under its name or at its place. The file that is read from a document holds what the document says,
and nothing else (`holds_ofDocument`). This rests on the names in every table being distinct: one
entry alone decides what becomes of a field.
-/

namespace ProcessIntegrity.Settings

open Toml (Value Sound TableSound)

/-! ## What a document says -/

inductive Says (names : List String) (name : String) (v : Value) : Value → Prop
  | table {entries : List (String × Value)} : (name, v) ∈ entries →
      Says names name v (.table entries)
  | array {items : List Value} {i : Nat} : names[i]? = some name → items[i]? = some v →
      Says names name v (.array items)

def ProbeSays (document : List (String × Value)) (name : String) (v : Value) : Prop :=
  ∃ body, ("probe", body) ∈ document ∧ Says File.probeFields name v body

def LogSays (document : List (String × Value)) (name : String) (v : Value) : Prop :=
  ∃ body, ("logging", body) ∈ document ∧ Says File.logFields name v body

def Taken {α : Type} (given : α → Prop) (fallback a : α) : Prop :=
  given a ∨ (∀ b, ¬ given b) ∧ a = fallback

structure Holds (document : List (String × Value)) (file : File) : Prop where
  exceptionCheck : ∀ on, file.probe.exceptionCheck = some on ↔
    ProbeSays document "enable_exception_check" (.boolean on)
  threshold : ∀ raw, file.probe.threshold = some raw ↔
    ProbeSays document "timing_threshold" (.string raw)
  iterations : ∀ n, file.probe.iterations = some n ↔
    ProbeSays document "workload_iterations" (.integer n.toNat)
  block : ∀ on, file.probe.block = some on ↔
    ProbeSays document "block_on_detection" (.boolean on)
  enabled : Taken (fun on => LogSays document "enable" (.boolean on)) false file.logging.enabled
  path : ∀ path, file.logging.file = some path ↔ LogSays document "file" (.string path)
  level : Taken (fun name => LogSays document "level" (.string name)) "INFO" file.logging.level

theorem Taken.unique {α : Type} {given : α → Prop} {fallback a b : α} (ha : Taken given fallback a)
    (hb : Taken given fallback b) (honce : ∀ a b, given a → given b → a = b) : a = b := by
  rcases ha with ha | ⟨hnone, ha⟩
  · rcases hb with hb | ⟨hnone, _⟩
    · exact honce a b ha hb
    · exact absurd ha (hnone a)
  · rcases hb with hb | ⟨_, hb⟩
    · exact absurd hb (hnone b)
    · rw [ha, hb]

theorem Taken.some_iff {α : Type} {given : α → Prop} {x : Option α}
    (h : Taken (fun b => ∃ a, some a = b ∧ given a) none x)
    (honce : ∀ a b, given a → given b → a = b) {a : α} : x = some a ↔ given a := by
  rcases h with ⟨b, rfl, hb⟩ | ⟨hnone, rfl⟩
  · rw [Option.some.injEq]
    constructor
    · intro hsame
      exact hsame ▸ hb
    · intro ha
      exact honce b a hb ha
  · constructor
    · intro h
      cases h
    · intro ha
      exact absurd ⟨a, rfl, ha⟩ (hnone (some a))

theorem Taken.of_id {α : Type} {given : α → Prop} {fallback a : α}
    (h : Taken (fun b => ∃ a, id a = b ∧ given a) fallback a) : Taken given fallback a := by
  simpa [Taken] using h

theorem taken_getD {α : Type} {given : α → Prop} {x : Option α} (h : ∀ a, x = some a ↔ given a)
    (fallback : α) : Taken given fallback (x.getD fallback) := by
  cases x with
  | none => exact .inr ⟨fun a ha => Option.some_ne_none a ((h a).2 ha).symm, rfl⟩
  | some a => exact .inl ((h a).1 rfl)

/-! ### Once at most -/

theorem eq_of_mem_of_nodup {entries : List (String × Value)} {key : String} {v w : Value}
    (hnodup : (entries.map Prod.fst).Nodup) (hv : (key, v) ∈ entries) (hw : (key, w) ∈ entries) :
    v = w :=
  congrArg Prod.snd (List.inj_on_of_nodup_map hnodup hv hw rfl)

theorem Says.unique {names : List String} (hnames : names.Nodup) {name : String} {v w body : Value}
    (hbody : Sound body) (hv : Says names name v body) (hw : Says names name w body) : v = w := by
  cases hv with
  | table hv =>
      cases hw with
      | table hw =>
          cases hbody with
          | table hnodup _ => exact eq_of_mem_of_nodup hnodup hv hw
  | array hi hv =>
      cases hw with
      | array hj hw =>
          obtain ⟨hlt, _⟩ := List.getElem?_eq_some_iff.1 hi
          have hsame := (List.getElem?_inj hlt hnames).1 (hi.trans hj.symm)
          rw [← hsame, hv] at hw
          exact Option.some.inj hw

theorem unique_at {document : List (String × Value)} (hsound : TableSound document)
    {names : List String} (hnames : names.Nodup) {place name : String} {v w : Value}
    (hv : ∃ body, (place, body) ∈ document ∧ Says names name v body)
    (hw : ∃ body, (place, body) ∈ document ∧ Says names name w body) : v = w := by
  obtain ⟨body, hbody, hv⟩ := hv
  obtain ⟨body', hbody', hw⟩ := hw
  rw [← eq_of_mem_of_nodup hsound.nodup hbody hbody'] at hw
  exact hv.unique hnames (hsound.values _ hbody) hw

theorem ProbeSays.unique {document : List (String × Value)} (hsound : TableSound document)
    {name : String} {v w : Value} (hv : ProbeSays document name v)
    (hw : ProbeSays document name w) : v = w :=
  unique_at hsound (by decide) hv hw

theorem LogSays.unique {document : List (String × Value)} (hsound : TableSound document)
    {name : String} {v w : Value} (hv : LogSays document name v)
    (hw : LogSays document name w) : v = w :=
  unique_at hsound (by decide) hv hw

/-! ## Single entries -/

/-- Where names are distinct, the entry of a name decides what is under it in the end. -/
theorem foldlM_entry {τ β : Type} {set : τ → String × Value → Except FormFault τ}
    {get : τ → β} {name : String} {R : Value → β → Prop} {entries : List (String × Value)}
    {t t' : τ}
    (hname : ∀ {t e t'}, e.1 = name → set t e = .ok t' → R e.2 (get t'))
    (hother : ∀ {t e t'}, e.1 ≠ name → set t e = .ok t' → get t' = get t)
    (hnodup : (entries.map Prod.fst).Nodup) (h : entries.foldlM set t = .ok t') :
    (∀ v, (name, v) ∈ entries → R v (get t')) ∧
      (name ∉ entries.map Prod.fst → get t' = get t) := by
  induction entries generalizing t with
  | nil =>
      cases h
      exact ⟨by simp, fun _ => rfl⟩
  | cons e later ih =>
      rw [List.foldlM_cons, bind_eq_ok_iff] at h
      obtain ⟨next, hnext, h⟩ := h
      rw [List.map_cons, List.nodup_cons] at hnodup
      obtain ⟨hgiven, hkept⟩ := ih hnodup.2 h
      constructor
      · intro v hv
        rcases List.mem_cons.1 hv with hv | hv
        · -- No later entry has this name, so what the first one made is still there.
          rw [← hv] at hnext hnodup
          rw [hkept hnodup.1]
          exact hname rfl hnext
        · exact hgiven v hv
      · intro hnot
        rw [List.map_cons, List.mem_cons, not_or] at hnot
        rw [hkept hnot.2, hother (Ne.symm hnot.1) hnext]

theorem map_fst_zip_sublist (names : List String) (items : List Value) :
    ((names.zip items).map Prod.fst).Sublist names := by
  induction names generalizing items with
  | nil => simp
  | cons name names ih =>
      cases items with
      | nil => simp
      | cons v items => exact (ih items).cons_cons name

theorem nodup_fields {names : List String} (hnames : names.Nodup) {body : Value}
    {entries : List (String × Value)} (hbody : Sound body)
    (h : File.fields? names body = some entries) : (entries.map Prod.fst).Nodup := by
  cases hbody with
  | table hnodup _ =>
      cases h
      exact hnodup
  | @array items _ =>
      cases h
      exact hnames.sublist (map_fst_zip_sublist names items)
  | dateTime _ =>
      cases h
      exact List.nodup_singleton _
  | _ => cases h

theorem says_iff {names : List String} {name : String} {v body : Value}
    (hname : name ≠ File.dateTimeKey) :
    Says names name v body ↔
      ∃ entries, File.fields? names body = some entries ∧ (name, v) ∈ entries := by
  constructor
  · intro h
    cases h with
    | table hv => exact ⟨_, rfl, hv⟩
    | array hi hv => exact ⟨_, rfl, mem_zip_iff.2 ⟨_, hi, hv⟩⟩
  · intro h
    obtain ⟨entries, hentries, hv⟩ := h
    unfold File.fields? at hentries
    split at hentries
    · cases hentries
      exact .table hv
    · cases hentries
      obtain ⟨i, hi, hv⟩ := mem_zip_iff.1 hv
      exact .array hi hv
    · cases hentries
      exact absurd (congrArg Prod.fst (List.mem_singleton.1 hv)) hname
    · cases hentries

/-! ## What the file holds -/

/-- A section of the file: where it stands, the names of its fields, how a field is taken in, and
which part of the file it becomes. -/
structure IsSection {τ : Type} (place : String) (names : List String)
    (set : τ → String × Value → Except FormFault τ) (part : File → τ) : Prop where
  nodup : names.Nodup
  taken : ∀ {f e f'}, e.1 = place → File.setSection f e = .ok f' →
    ∃ entries, File.fields? names e.2 = some entries ∧ entries.foldlM set (part {}) = .ok (part f')
  other : ∀ {f e f'}, e.1 ≠ place → File.setSection f e = .ok f' → part f' = part f

theorem isSection_probe : IsSection "probe" File.probeFields File.setProbeField File.probe where
  nodup := by decide
  taken hplace h := by
    cases setSection_eq_ok_iff.1 h with
    | probe hs =>
        obtain ⟨entries, hentries, hs, _⟩ := probeSection_eq_ok_iff.1 hs
        exact ⟨entries, hentries, hs⟩
    | logging _ => simp at hplace
  other hplace h := by
    cases setSection_eq_ok_iff.1 h with
    | probe _ => simp at hplace
    | logging _ => rfl

theorem isSection_logging : IsSection "logging" File.logFields File.setLogField File.logging where
  nodup := by decide
  taken hplace h := by
    cases setSection_eq_ok_iff.1 h with
    | probe _ => simp at hplace
    | logging hs => exact logSection_eq_ok_iff.1 hs
  other hplace h := by
    cases setSection_eq_ok_iff.1 h with
    | probe _ => rfl
    | logging _ => simp at hplace

/-- A field of a section: its name, how a document writes a value of it, and what the section then
has for it. -/
structure IsField {τ α β : Type} (set : τ → String × Value → Except FormFault τ) (name : String)
    (encode : α → Value) (wrap : α → β) (get : τ → β) : Prop where
  known : name ≠ File.dateTimeKey
  taken : ∀ {t e t'}, e.1 = name → set t e = .ok t' → ∃ a, encode a = e.2 ∧ wrap a = get t'
  other : ∀ {t e t'}, e.1 ≠ name → set t e = .ok t' → get t' = get t

section Field

variable {τ α β : Type} {set : τ → String × Value → Except FormFault τ} {name : String}
  {encode : α → Value} {wrap : α → β} {get : τ → β} {names : List String}

/-- What becomes of a field while its section is taken in: the section decides it, and otherwise it
stays as it was. -/
theorem IsField.taken_fields (hfield : IsField set name encode wrap get) (hnames : names.Nodup)
    {body : Value} (hbody : Sound body) {entries : List (String × Value)}
    (hentries : File.fields? names body = some entries) {t t' : τ}
    (h : entries.foldlM set t = .ok t') :
    Taken (fun b => ∃ a, wrap a = b ∧ Says names name (encode a) body) (get t) (get t') := by
  obtain ⟨hgiven, hkept⟩ := foldlM_entry (R := fun v b => ∃ a, encode a = v ∧ wrap a = b)
    hfield.taken hfield.other (nodup_fields hnames hbody hentries) h
  by_cases hname : name ∈ entries.map Prod.fst
  · obtain ⟨⟨_, v⟩, hv, hsame⟩ := List.mem_map.1 hname
    cases hsame
    obtain ⟨a, hencode, hwrap⟩ := hgiven v hv
    rw [← hencode] at hv
    exact .inl ⟨a, hwrap, (says_iff hfield.known).2 ⟨entries, hentries, hv⟩⟩
  · refine .inr ⟨fun b hb => ?_, hkept hname⟩
    obtain ⟨a, _, hsays⟩ := hb
    obtain ⟨entries', hentries', hv⟩ := (says_iff hfield.known).1 hsays
    rw [hentries] at hentries'
    cases hentries'
    exact hname (List.mem_map_of_mem (f := Prod.fst) hv)

/-- The same for the whole document, of which the section is an entry if it is there at all. -/
theorem IsField.taken_ofDocument (hfield : IsField set name encode wrap get) {place : String}
    {part : File → τ} (hsection : IsSection place names set part)
    {document : List (String × Value)} (hsound : TableSound document) {file : File}
    (h : File.ofDocument document = .ok file) :
    Taken (fun b => ∃ a, wrap a = b ∧
        ∃ body, (place, body) ∈ document ∧ Says names name (encode a) body)
      (get (part {})) (get (part file)) := by
  obtain ⟨hgiven, hkept⟩ := foldlM_entry (R := fun body t => ∃ entries,
    File.fields? names body = some entries ∧ entries.foldlM set (part {}) = .ok t)
    hsection.taken hsection.other hsound.nodup h
  by_cases hplace : place ∈ document.map Prod.fst
  · obtain ⟨⟨_, body⟩, hbody, hsame⟩ := List.mem_map.1 hplace
    cases hsame
    obtain ⟨entries, hentries, hfold⟩ := hgiven body hbody
    have htaken := hfield.taken_fields hsection.nodup (hsound.values _ hbody) hentries hfold
    rcases htaken with ⟨a, hwrap, hsays⟩ | ⟨hnone, hstart⟩
    · exact .inl ⟨a, hwrap, body, hbody, hsays⟩
    · refine .inr ⟨fun b hb => ?_, hstart⟩
      obtain ⟨a, hwrap, body', hbody', hsays⟩ := hb
      rw [eq_of_mem_of_nodup hsound.nodup hbody' hbody] at hsays
      exact hnone b ⟨a, hwrap, hsays⟩
  · refine .inr ⟨fun b hb => ?_, congrArg get (hkept hplace)⟩
    obtain ⟨_, _, body, hbody, _⟩ := hb
    exact hplace (List.mem_map_of_mem (f := Prod.fst) hbody)

end Field

theorem isField_exceptionCheck : IsField File.setProbeField "enable_exception_check"
    Value.boolean some ProbeSection.exceptionCheck where
  known := by decide
  taken hname h := by cases setProbeField_eq_ok_iff.1 h <;> simp_all
  other hname h := by cases setProbeField_eq_ok_iff.1 h <;> simp_all

theorem isField_threshold : IsField File.setProbeField "timing_threshold"
    Value.string some ProbeSection.threshold where
  known := by decide
  taken hname h := by cases setProbeField_eq_ok_iff.1 h <;> simp_all
  other hname h := by cases setProbeField_eq_ok_iff.1 h <;> simp_all

theorem isField_iterations : IsField File.setProbeField "workload_iterations"
    (fun n : UInt32 => Value.integer n.toNat) some ProbeSection.iterations where
  known := by decide
  taken hname h := by cases setProbeField_eq_ok_iff.1 h <;> simp_all
  other hname h := by cases setProbeField_eq_ok_iff.1 h <;> simp_all

theorem isField_block : IsField File.setProbeField "block_on_detection"
    Value.boolean some ProbeSection.block where
  known := by decide
  taken hname h := by cases setProbeField_eq_ok_iff.1 h <;> simp_all
  other hname h := by cases setProbeField_eq_ok_iff.1 h <;> simp_all

theorem isField_enable : IsField File.setLogField "enable"
    Value.boolean id LogSettings.enabled where
  known := by decide
  taken hname h := by cases setLogField_eq_ok_iff.1 h <;> simp_all
  other hname h := by cases setLogField_eq_ok_iff.1 h <;> simp_all

theorem isField_file : IsField File.setLogField "file" Value.string some LogSettings.file where
  known := by decide
  taken hname h := by cases setLogField_eq_ok_iff.1 h <;> simp_all
  other hname h := by cases setLogField_eq_ok_iff.1 h <;> simp_all

theorem isField_level : IsField File.setLogField "level" Value.string id LogSettings.level where
  known := by decide
  taken hname h := by cases setLogField_eq_ok_iff.1 h <;> simp_all
  other hname h := by cases setLogField_eq_ok_iff.1 h <;> simp_all

theorem holds_ofDocument {document : List (String × Value)} (hsound : TableSound document)
    {file : File} (h : File.ofDocument document = .ok file) : Holds document file where
  exceptionCheck _ :=
    (isField_exceptionCheck.taken_ofDocument isSection_probe hsound h).some_iff fun _ _ ha hb =>
      Value.boolean.inj (ProbeSays.unique hsound ha hb)
  threshold _ :=
    (isField_threshold.taken_ofDocument isSection_probe hsound h).some_iff fun _ _ ha hb =>
      Value.string.inj (ProbeSays.unique hsound ha hb)
  iterations _ :=
    (isField_iterations.taken_ofDocument isSection_probe hsound h).some_iff fun _ _ ha hb =>
      UInt32.toNat_inj.1 (Int.ofNat.inj (Value.integer.inj (ProbeSays.unique hsound ha hb)))
  block _ :=
    (isField_block.taken_ofDocument isSection_probe hsound h).some_iff fun _ _ ha hb =>
      Value.boolean.inj (ProbeSays.unique hsound ha hb)
  enabled := (isField_enable.taken_ofDocument isSection_logging hsound h).of_id
  path _ :=
    (isField_file.taken_ofDocument isSection_logging hsound h).some_iff fun _ _ ha hb =>
      Value.string.inj (LogSays.unique hsound ha hb)
  level := (isField_level.taken_ofDocument isSection_logging hsound h).of_id

end ProcessIntegrity.Settings
