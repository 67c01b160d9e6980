import ProcessIntegrity.Settings.Change
import ProcessIntegrity.Toml.Document
/-!
# Settings files

A settings file is a TOML document with two sections, `probe` and `logging`, both optional. The form
of the whole document is checked first, in its own order; only then are the thresholds and bounds
looked at. A section is a table, or an array that gives its fields in order.
-/

namespace ProcessIntegrity.Settings

open Toml (Value)

/-- The section `probe`. What it leaves out keeps its default. -/
structure ProbeSection where
  exceptionCheck : Option Bool := none
  threshold : Option String := none
  iterations : Option UInt32 := none
  block : Option Bool := none
  deriving DecidableEq, Repr

/-- A settings file of the right form, with its thresholds and bounds yet to be looked at. -/
structure File where
  probe : ProbeSection := {}
  logging : LogSettings := .default
  deriving DecidableEq, Repr

namespace File

/-! ## Values -/

def boolean : Value → Except FormFault Bool
  | .boolean b => .ok b
  | v => .error (.wrongType v .boolean)

def text : Value → Except FormFault String
  | .string s => .ok s
  | v => .error (.wrongType v .text)

def count : Value → Except FormFault UInt32
  | .integer n =>
    if 0 ≤ n ∧ n.toNat < UInt32.size then .ok (UInt32.ofNat n.toNat)
    else .error (.countOutOfRange n)
  | v => .error (.wrongType v .count)

/-! ## Sections -/

/-- The key under which a date or time shows itself where a table is wanted. -/
def dateTimeKey : String := "$__toml_private_datetime"

/-- The fields of a section: the entries of a table, or the items of an array under the names that
they stand for. -/
def fields? (names : List String) : Value → Option (List (String × Value))
  | .table entries => some entries
  | .array items => some (names.zip items)
  | .dateTime written => some [(dateTimeKey, .string written)]
  | _ => none

def probeFields : List String :=
  ["enable_exception_check", "timing_threshold", "workload_iterations", "block_on_detection"]

/-- Takes one field into the section `probe`, which has no others than its own. -/
def setProbeField (s : ProbeSection) : String × Value → Except FormFault ProbeSection
  | ("enable_exception_check", v) => do return { s with exceptionCheck := some (← boolean v) }
  | ("timing_threshold", v) => do return { s with threshold := some (← text v) }
  | ("workload_iterations", v) => do return { s with iterations := some (← count v) }
  | ("block_on_detection", v) => do return { s with block := some (← boolean v) }
  | (key, _) => .error (.unknownField key probeFields)

/-- An array that stands for the section `probe` has an item for each of its fields. -/
def checkLength : Value → Except FormFault Unit
  | .array items =>
    if items.length < probeFields.length then .error (.tooShort items.length) else .ok ()
  | _ => .ok ()

def probeSection (v : Value) : Except FormFault ProbeSection :=
  match fields? probeFields v with
  | none => .error (.wrongType v .probeSection)
  | some fields => do
    let s ← fields.foldlM setProbeField {}
    checkLength v
    return s

def logFields : List String := ["enable", "file", "level"]

/-- Takes one field into the section `logging`, which ignores fields that it does not know. -/
def setLogField (s : LogSettings) : String × Value → Except FormFault LogSettings
  | ("enable", v) => do return { s with enabled := ← boolean v }
  | ("file", v) => do return { s with file := some (← text v) }
  | ("level", v) => do return { s with level := ← text v }
  | _ => .ok s

def logSection (v : Value) : Except FormFault LogSettings :=
  match fields? logFields v with
  | none => .error (.wrongType v .logSection)
  | some fields => fields.foldlM setLogField .default

def setSection (f : File) : String × Value → Except FormFault File
  | ("probe", v) => do return { f with probe := ← probeSection v }
  | ("logging", v) => do return { f with logging := ← logSection v }
  | (key, _) => .error (.unknownField key ["probe", "logging"])

def ofDocument (entries : List (String × Value)) : Except FormFault File :=
  entries.foldlM setSection {}

end File

/-! ## From a file to settings -/

def present {α : Type} (field : Option α) (read : α → Except Stop Change) :
    List (Except Stop Change) :=
  (field.map read).toList

def ProbeSection.changes (s : ProbeSection) : List (Except Stop Change) :=
  present s.exceptionCheck (fun on => .ok (.exceptionCheck on)) ++
    present s.threshold (fun raw => .threshold <$> readThreshold raw) ++
    present s.iterations (fun n => .iterations <$> checkIterations "probe.workload_iterations" n) ++
    present s.block (fun on => .ok (.block on))

def parse (defaults : Settings) (text : String) : Except Stop Settings :=
  match Toml.read? text.toList with
  | none => .error (.failed .notToml)
  | some document =>
    match File.ofDocument document with
    | .error fault => .error (.failed (.wrongForm fault))
    | .ok file =>
      let changed := change { defaults with logging := file.logging } file.probe.changes
      changed.result.map fun _ => changed.settings

end ProcessIntegrity.Settings
