import Mathlib.Data.List.Nodup
import ProcessIntegrity.Toml.Document
/-!
# What reading a document builds

In everything that a document holds, at any depth, no table has a key twice and every integer has 64
bits. A table under construction has this property from the start, each way of naming a table or
giving a value keeps it, and so does the whole document (`tableSound_read?`).
-/

namespace ProcessIntegrity.Toml

/-! ## Sound values -/

def IsInt64 (n : Int) : Prop :=
  Int64.minValue.toInt ≤ n ∧ n ≤ Int64.maxValue.toInt

/-- Integers have 64 bits and tables have no key twice, in the value and in all that it holds. -/
inductive Sound : Value → Prop
  | string (text : String) : Sound (.string text)
  | integer {n : Int} : IsInt64 n → Sound (.integer n)
  | float (x : Binary64) : Sound (.float x)
  | boolean (b : Bool) : Sound (.boolean b)
  | dateTime (written : String) : Sound (.dateTime written)
  | array {items : List Value} : (∀ v ∈ items, Sound v) → Sound (.array items)
  | table {entries : List (String × Value)} : (entries.map Prod.fst).Nodup →
      (∀ e ∈ entries, Sound e.2) → Sound (.table entries)

structure TableSound (entries : List (String × Value)) : Prop where
  nodup : (entries.map Prod.fst).Nodup
  values : ∀ e ∈ entries, Sound e.2

theorem TableSound.table {entries : List (String × Value)} (h : TableSound entries) :
    Sound (.table entries) :=
  .table h.nodup h.values

/-! ## Sound drafts -/

inductive Draft.Sound : Draft → Prop
  | leaf {v : Value} : Toml.Sound v → Draft.Sound (.leaf v)
  | table {origin : Origin} {es : Entries} : (es.map Prod.fst).Nodup →
      (∀ e ∈ es, Draft.Sound e.2) → Draft.Sound (.table origin es)
  | tables {elements : List Entries} : (∀ es ∈ elements, (es.map Prod.fst).Nodup) →
      (∀ es ∈ elements, ∀ e ∈ es, Draft.Sound e.2) → Draft.Sound (.tables elements)

namespace Entries

structure Sound (es : Entries) : Prop where
  nodup : (es.map Prod.fst).Nodup
  drafts : ∀ e ∈ es, e.2.Sound

theorem sound_nil : Sound [] :=
  ⟨List.nodup_nil, by simp⟩

theorem Sound.draft {es : Entries} (h : es.Sound) (origin : Origin) :
    (Draft.table origin es).Sound :=
  .table h.nodup h.drafts

theorem sound_of_draft {origin : Origin} {es : Entries} (h : (Draft.table origin es).Sound) :
    es.Sound := by
  cases h with
  | table hnodup hdrafts => exact ⟨hnodup, hdrafts⟩

theorem sound_tables_iff {elements : List Entries} :
    (Draft.tables elements).Sound ↔ ∀ es ∈ elements, es.Sound := by
  constructor
  · intro h es hes
    cases h with
    | tables hnodup hdrafts => exact ⟨hnodup es hes, hdrafts es hes⟩
  · intro h
    exact .tables (fun es hes => (h es hes).nodup) fun es hes => (h es hes).drafts

theorem sound_of_lookup {es : Entries} {key : String} {d : Draft} (h : es.Sound)
    (hlookup : es.lookup key = some d) : d.Sound := by
  obtain ⟨before, after, hsplit, _⟩ := List.lookup_eq_some_iff.1 hlookup
  exact h.drafts (key, d) (by simp [hsplit])

/-! ### Elementary changes -/

theorem sound_push {es : Entries} {key : String} {d : Draft} (h : es.Sound)
    (hnew : es.lookup key = none) (hd : d.Sound) : (push key d es).Sound := by
  have hkey : key ∉ es.map Prod.fst := by
    intro hmem
    obtain ⟨e, he, hsame⟩ := List.mem_map.1 hmem
    have hne := List.lookup_eq_none_iff.1 hnew e he
    simp [hsame] at hne
  constructor
  · rw [push, List.map_append, List.map_singleton]
    exact List.nodup_append_comm.1 (List.nodup_cons.2 ⟨hkey, h.nodup⟩)
  · intro e he
    rcases List.mem_append.1 he with he | he
    · exact h.drafts e he
    · rw [List.mem_singleton.1 he]
      exact hd

theorem map_fst_replace (key : String) (d : Draft) (es : Entries) :
    (replace key d es).map Prod.fst = es.map Prod.fst := by
  rw [replace, List.map_map]
  apply List.map_congr_left
  intro e _
  by_cases hkey : e.1 = key <;> simp [hkey]

theorem sound_replace {es : Entries} {key : String} {d : Draft} (h : es.Sound) (hd : d.Sound) :
    (replace key d es).Sound := by
  constructor
  · rw [map_fst_replace]
    exact h.nodup
  · intro e he
    obtain ⟨e', he', hsame⟩ := List.mem_map.1 he
    rw [← hsame]
    split
    · exact hd
    · exact h.drafts e' he'

theorem sound_erase {es : Entries} (h : es.Sound) (key : String) : (erase key es).Sound := by
  have hsublist : (erase key es).Sublist es := List.filter_sublist
  exact ⟨h.nodup.sublist (hsublist.map Prod.fst), fun e he => h.drafts e (hsublist.subset he)⟩

theorem lookup_erase (key : String) (es : Entries) : (erase key es).lookup key = none := by
  apply List.lookup_eq_none_iff.2
  intro e he
  have hne := of_decide_eq_true (List.mem_filter.1 he).2
  exact bne_iff_ne.2 hne.symm

theorem sound_last {elements : List Entries} {inner : Entries} (h : (Draft.tables elements).Sound)
    (hlast : elements.getLast? = some inner) : inner.Sound :=
  sound_tables_iff.1 h inner (List.mem_of_getLast? hlast)

theorem sound_tables_replace_last {elements : List Entries} {inner : Entries}
    (h : (Draft.tables elements).Sound) (hinner : inner.Sound) :
    (Draft.tables (elements.dropLast ++ [inner])).Sound := by
  apply sound_tables_iff.2
  intro es hes
  rcases List.mem_append.1 hes with hes | hes
  · exact sound_tables_iff.1 h es (List.dropLast_subset elements hes)
  · rw [List.mem_singleton.1 hes]
    exact hinner

/-! ### Changes inside a table -/

def Keeps (change : Entries → Option Entries) : Prop :=
  ∀ es es' : Entries, es.Sound → change es = some es' → es'.Sound

section Keeps

variable {change : Entries → Option Entries} {es es' : Entries} {step : String}

theorem Keeps.sound_new (hchange : Keeps change) (h : es.Sound) (hnew : es.lookup step = none)
    {origin : Origin}
    (hdone : (do return push step (.table origin (← change [])) es) = some es') : es'.Sound := by
  obtain ⟨inner, hinner, hdone⟩ := Option.bind_eq_some_iff.1 hdone
  cases hdone
  exact sound_push h hnew ((hchange _ _ sound_nil hinner).draft origin)

theorem Keeps.sound_table (hchange : Keeps change) (h : es.Sound) {origin origin' : Origin}
    {inner : Entries} (hold : es.lookup step = some (.table origin inner))
    (hdone : (do return replace step (.table origin' (← change inner)) es) = some es') :
    es'.Sound := by
  obtain ⟨inner', hinner, hdone⟩ := Option.bind_eq_some_iff.1 hdone
  cases hdone
  have hbefore := sound_of_draft (sound_of_lookup h hold)
  exact sound_replace h ((hchange _ _ hbefore hinner).draft origin')

theorem Keeps.sound_last_table (hchange : Keeps change) (h : es.Sound) {elements : List Entries}
    (hold : es.lookup step = some (.tables elements))
    (hdone : (do
      let inner ← change (← elements.getLast?)
      return replace step (.tables (elements.dropLast ++ [inner])) es) = some es') :
    es'.Sound := by
  obtain ⟨last, hlast, hdone⟩ := Option.bind_eq_some_iff.1 hdone
  obtain ⟨inner, hinner, hdone⟩ := Option.bind_eq_some_iff.1 hdone
  cases hdone
  have hbefore := sound_of_lookup h hold
  have hafter := hchange _ _ (sound_last hbefore hlast) hinner
  exact sound_replace h (sound_tables_replace_last hbefore hafter)

end Keeps

/-! ### Ways to name a table or to give a value -/

theorem keeps_put {key : String} {v : Value} (hv : Toml.Sound v) (path : List String) :
    Keeps (put key v path) := by
  induction path with
  | nil =>
      intro es es' h hput
      unfold put at hput
      split at hput
      · next hnew =>
          cases hput
          exact sound_push h hnew (.leaf hv)
      · cases hput
  | cons step path ih =>
      intro es es' h hput
      unfold put at hput
      split at hput
      · next hnew => exact ih.sound_new h hnew hput
      · next inner hold => exact ih.sound_table h hold hput
      · next inner hold =>
          split at hput
          · cases hput
          · exact ih.sound_table h hold hput
      · next elements hold =>
          split at hput
          · cases hput
          · exact ih.sound_last_table h hold hput
      · cases hput

/-- A change at the end of a path of headers keeps what it keeps there. -/
theorem Keeps.alter {change : Entries → Option Entries} (hchange : Keeps change)
    (path : List String) : Keeps (alter change path) := by
  induction path with
  | nil => exact hchange
  | cons step path ih =>
      intro es es' h halter
      unfold Entries.alter at halter
      split at halter
      · next hnew => exact ih.sound_new h hnew halter
      · next origin inner hold => exact ih.sound_table h hold halter
      · next elements hold => exact ih.sound_last_table h hold halter
      · cases halter

theorem keeps_openTable (key : String) : Keeps (openTable key) := by
  intro es es' h hopen
  unfold openTable at hopen
  split at hopen
  · next hnew =>
      cases hopen
      exact sound_push h hnew (sound_nil.draft .header)
  · next inner hold =>
      cases hopen
      have hinner := sound_of_draft (sound_of_lookup h hold)
      exact sound_push (sound_erase h key) (lookup_erase key es) (hinner.draft .header)
  · cases hopen

theorem keeps_openElement (key : String) : Keeps (openElement key) := by
  intro es es' h hopen
  unfold openElement at hopen
  split at hopen
  · next hnew =>
      cases hopen
      refine sound_push h hnew (sound_tables_iff.2 fun es hes => ?_)
      rw [List.mem_singleton.1 hes]
      exact sound_nil
  · next elements hold =>
      cases hopen
      refine sound_replace h (sound_tables_iff.2 fun es hes => ?_)
      rcases List.mem_append.1 hes with hes | hes
      · exact sound_tables_iff.1 (sound_of_lookup h hold) es hes
      · rw [List.mem_singleton.1 hes]
        exact sound_nil
  · cases hopen

theorem keeps_atHeader {make : String → Entries → Option Entries}
    (hmake : ∀ key, Keeps (make key)) (path : List String) : Keeps (atHeader make path) := by
  intro es es' h hheader
  obtain ⟨key, _, halter⟩ := Option.bind_eq_some_iff.1 hheader
  exact (hmake key).alter path.dropLast es es' h halter

/-! ### Finished tables -/

theorem toValues_eq_map (es : Entries) :
    toValues es = es.map fun e => (e.1, e.2.toValue) := by
  induction es with
  | nil => rfl
  | cons e es ih => rw [toValues, ih, List.map_cons]

theorem toArray_eq_map (elements : List Entries) :
    toArray elements = elements.map fun es => .table (toValues es) := by
  induction elements with
  | nil => rfl
  | cons es elements ih => rw [toArray, ih, List.map_cons]

theorem map_fst_toValues (es : Entries) : (toValues es).map Prod.fst = es.map Prod.fst := by
  rw [toValues_eq_map, List.map_map]
  rfl

theorem tableSound_of_forall {es : Entries} (hnodup : (es.map Prod.fst).Nodup)
    (hvalues : ∀ e ∈ es, Toml.Sound e.2.toValue) : TableSound (toValues es) := by
  constructor
  · rw [map_fst_toValues]
    exact hnodup
  · intro e he
    rw [toValues_eq_map] at he
    obtain ⟨e', he', hsame⟩ := List.mem_map.1 he
    rw [← hsame]
    exact hvalues e' he'

end Entries

theorem Draft.Sound.toValue {d : Draft} (h : d.Sound) : Toml.Sound d.toValue := by
  induction h with
  | leaf hv => exact hv
  | table hnodup _ ih => exact (Entries.tableSound_of_forall hnodup ih).table
  | tables hnodup _ ih =>
      refine .array fun v hv => ?_
      rw [Entries.toArray_eq_map] at hv
      obtain ⟨es, hes, hsame⟩ := List.mem_map.1 hv
      rw [← hsame]
      exact (Entries.tableSound_of_forall (hnodup es hes) (ih es hes)).table

theorem Entries.Sound.toValues {es : Entries} (h : es.Sound) : TableSound (Entries.toValues es) :=
  Entries.tableSound_of_forall h.nodup fun e he => (h.drafts e he).toValue

/-! ## Readers -/

def Gives {α : Type} (reader : Reader α) (p : α → Prop) : Prop :=
  ∀ {s rest : List Char} {a : α}, reader s = some (a, rest) → p a

/-- What every step of a fold keeps, the whole fold keeps. -/
theorem foldlM_keeps {α β : Type} {f : β → α → Option β} {p : β → Prop} {as : List α} {b b' : β}
    (hstep : ∀ {a b b'}, a ∈ as → p b → f b a = some b' → p b') (hb : p b)
    (h : as.foldlM f b = some b') : p b' := by
  induction as generalizing b with
  | nil =>
      cases h
      exact hb
  | cons a as ih =>
      rw [List.foldlM_cons] at h
      obtain ⟨next, hnext, h⟩ := Option.bind_eq_some_iff.1 h
      have hkept := hstep List.mem_cons_self hb hnext
      exact ih (fun ha => hstep (List.mem_cons_of_mem _ ha)) hkept h

theorem isInt64_signed {negative : Bool} {magnitude : Nat} {n : Int}
    (h : signed? negative magnitude = some n) : IsInt64 n := by
  have hhalf : UInt64.size / 2 = 9223372036854775808 := by decide
  have hmin : Int64.minValue.toInt = -9223372036854775808 := by decide
  have hmax : Int64.maxValue.toInt = 9223372036854775807 := by decide
  unfold IsInt64
  unfold signed? at h
  split at h <;> split at h
  · cases h
    omega
  · cases h
  · cases h
    omega
  · cases h

theorem gives_integer : Gives integer? IsInt64 := by
  have hbased : ∀ base, Gives (basedInteger? base) IsInt64 := by
    intro base s rest n h
    obtain ⟨digits, _, h⟩ := Option.bind_eq_some_iff.1 h
    obtain ⟨m, hm, h⟩ := Option.bind_eq_some_iff.1 h
    cases h
    exact isInt64_signed hm
  intro s rest n h
  unfold integer? at h
  split at h
  · exact hbased 16 h
  · exact hbased 8 h
  · exact hbased 2 h
  · obtain ⟨digits, _, h⟩ := Option.bind_eq_some_iff.1 h
    obtain ⟨m, hm, h⟩ := Option.bind_eq_some_iff.1 h
    cases h
    exact isInt64_signed hm

theorem gives_number : Gives number? Sound := by
  intro s rest v h
  unfold number? at h
  split at h
  · split at h
    · cases h
    · cases h
      exact .float _
  · split at h
    · cases h
      exact .float _
    · obtain ⟨⟨n, _⟩, hn, hdone⟩ := Option.map_eq_some_iff.1 h
      cases hdone
      exact .integer (gives_integer hn)

theorem gives_dateTime : Gives dateTime? Sound := by
  intro s rest v h
  unfold dateTime? at h
  split at h
  · cases h
    exact .dateTime _
  · obtain ⟨rest', _, h⟩ := Option.bind_eq_some_iff.1 h
    cases h
    exact .dateTime _

theorem gives_scalar : Gives scalar Sound := by
  intro s rest v h
  unfold scalar at h
  split at h
  · cases h
    exact .boolean true
  · cases h
    exact .boolean false
  · split at h
    · cases h
      exact .string _
    · split at h
      · next r hr =>
          cases h
          exact gives_dateTime hr
      · exact gives_number h

theorem gives_arrayItems {item : Reader Value} (hitem : Gives item Sound) (fuel : Nat) :
    Gives (arrayItems? item fuel) fun vs => ∀ v ∈ vs, Sound v := by
  induction fuel with
  | zero =>
      intro s rest vs h
      cases h
  | succ fuel ih =>
      intro s rest vs h
      unfold arrayItems? at h
      split at h
      · cases h
        simp
      · obtain ⟨⟨v, s'⟩, hv, h⟩ := Option.bind_eq_some_iff.1 h
        have hfirst : Sound v := hitem hv
        simp only at h
        split at h
        · obtain ⟨⟨later, s''⟩, hlater, h⟩ := Option.bind_eq_some_iff.1 h
          cases h
          exact List.forall_mem_cons.2 ⟨hfirst, ih hlater⟩
        · cases h
          exact List.forall_mem_singleton.2 hfirst
        · cases h

theorem gives_pair {item : Reader Value} (hitem : Gives item Sound) :
    Gives (pair? item) fun p => Sound p.2 := by
  intro s rest p h
  unfold pair? at h
  obtain ⟨⟨steps, s₁⟩, _, h⟩ := Option.bind_eq_some_iff.1 h
  obtain ⟨name, _, h⟩ := Option.bind_eq_some_iff.1 h
  obtain ⟨s₂, _, h⟩ := Option.bind_eq_some_iff.1 h
  obtain ⟨⟨v, s₃⟩, hv, h⟩ := Option.bind_eq_some_iff.1 h
  cases h
  exact hitem hv

theorem gives_inlinePairs {item : Reader Value} (hitem : Gives item Sound) (fuel : Nat) :
    Gives (inlinePairs? item fuel) fun ps => ∀ p ∈ ps, Sound p.2 := by
  induction fuel with
  | zero =>
      intro s rest ps h
      cases h
  | succ fuel ih =>
      intro s rest ps h
      unfold inlinePairs? at h
      obtain ⟨⟨p, s'⟩, hp, h⟩ := Option.bind_eq_some_iff.1 h
      have hfirst : Sound p.2 := gives_pair hitem hp
      simp only at h
      split at h
      · obtain ⟨⟨later, s''⟩, hlater, h⟩ := Option.bind_eq_some_iff.1 h
        cases h
        exact List.forall_mem_cons.2 ⟨hfirst, ih hlater⟩
      · cases h
        exact List.forall_mem_singleton.2 hfirst
      · cases h

theorem gives_inlineTable {item : Reader Value} (hitem : Gives item Sound) :
    Gives (inlineTable? item) Sound := by
  intro s rest v h
  unfold inlineTable? at h
  split at h
  · cases h
    exact .table List.nodup_nil (by simp)
  · obtain ⟨⟨pairs, s'⟩, hpairs, h⟩ := Option.bind_eq_some_iff.1 h
    obtain ⟨w, hw, h⟩ := Option.bind_eq_some_iff.1 h
    cases h
    obtain ⟨es, hes, hdone⟩ := Option.bind_eq_some_iff.1 hw
    cases hdone
    have hsound := foldlM_keeps (p := Entries.Sound) (fun hp hes hput =>
      Entries.keeps_put (gives_inlinePairs hitem _ hpairs _ hp) _ _ _ hes hput)
      Entries.sound_nil hes
    exact hsound.toValues.table

theorem gives_value (depth : Nat) : Gives (value depth) Sound := by
  induction depth with
  | zero => exact gives_scalar
  | succ depth ih =>
      intro s rest v h
      unfold value at h
      split at h
      · obtain ⟨⟨vs, s'⟩, hvs, hdone⟩ := Option.map_eq_some_iff.1 h
        cases hdone
        exact .array (gives_arrayItems ih _ hvs)
      · exact gives_inlineTable ih h
      · exact gives_scalar h

/-! ## Documents -/

def Statement.Sound : Statement → Prop
  | .pair _ _ v => Toml.Sound v
  | .table _ | .element _ => True

theorem gives_statement : Gives statement? Statement.Sound := by
  intro s rest statement h
  unfold statement? at h
  split at h
  · obtain ⟨⟨path, s₁⟩, _, h⟩ := Option.bind_eq_some_iff.1 h
    obtain ⟨s₂, _, h⟩ := Option.bind_eq_some_iff.1 h
    obtain ⟨s₃, _, h⟩ := Option.bind_eq_some_iff.1 h
    obtain ⟨s₄, _, h⟩ := Option.bind_eq_some_iff.1 h
    cases h
    trivial
  · obtain ⟨⟨path, s₁⟩, _, h⟩ := Option.bind_eq_some_iff.1 h
    obtain ⟨s₂, _, h⟩ := Option.bind_eq_some_iff.1 h
    obtain ⟨s₃, _, h⟩ := Option.bind_eq_some_iff.1 h
    cases h
    trivial
  · obtain ⟨⟨⟨name, v⟩, s₁⟩, hpair, h⟩ := Option.bind_eq_some_iff.1 h
    obtain ⟨s₂, _, h⟩ := Option.bind_eq_some_iff.1 h
    cases h
    exact gives_pair (gives_value maxDepth) hpair

theorem sound_statements {fuel : Nat} {s : List Char} {statements : List Statement}
    (h : statements? fuel s = some statements) : ∀ x ∈ statements, x.Sound := by
  induction fuel generalizing s statements with
  | zero => cases h
  | succ fuel ih =>
      unfold statements? at h
      split at h
      · cases h
        simp
      · split at h
        · exact ih h
        · obtain ⟨⟨first, s'⟩, hfirst, h⟩ := Option.bind_eq_some_iff.1 h
          obtain ⟨later, hlater, h⟩ := Option.bind_eq_some_iff.1 h
          cases h
          exact List.forall_mem_cons.2 ⟨gives_statement hfirst, ih hlater⟩

theorem sound_apply {root root' : Draft.Root} {statement : Statement} (hroot : root.entries.Sound)
    (hstatement : statement.Sound) (h : statement.apply root = some root') :
    root'.entries.Sound := by
  cases statement with
  | pair path key v =>
      obtain ⟨es, hes, hdone⟩ := Option.bind_eq_some_iff.1 h
      cases hdone
      exact (Entries.keeps_put hstatement path).alter root.path _ _ hroot hes
  | table path =>
      obtain ⟨es, hes, hdone⟩ := Option.bind_eq_some_iff.1 h
      cases hdone
      exact Entries.keeps_atHeader Entries.keeps_openTable path _ _ hroot hes
  | element path =>
      obtain ⟨es, hes, hdone⟩ := Option.bind_eq_some_iff.1 h
      cases hdone
      exact Entries.keeps_atHeader Entries.keeps_openElement path _ _ hroot hes

/-- No table of a document has a key twice, and its integers have 64 bits. -/
theorem tableSound_read? {text : List Char} {document : List (String × Value)}
    (h : read? text = some document) : TableSound document := by
  obtain ⟨statements, hstatements, h⟩ := Option.bind_eq_some_iff.1 h
  obtain ⟨root, hroot, h⟩ := Option.bind_eq_some_iff.1 h
  cases h
  have hsound := foldlM_keeps (p := fun root : Draft.Root => root.entries.Sound)
    (fun hx hroot happly => sound_apply hroot (sound_statements hstatements _ hx) happly)
    Entries.sound_nil hroot
  exact hsound.toValues

end ProcessIntegrity.Toml
