import ProcessIntegrity.Settings
import ProcessIntegrity.Settings.Failure
/-!
# Single settings

Reading the text of one setting and changing the settings by it. A list of changes is made from left
to right and ends at the first that cannot be read; the changes before it stay made.
-/

namespace ProcessIntegrity.Settings

inductive Change where
  | exceptionCheck (on : Bool)
  | threshold (d : Duration)
  | iterations (n : UInt32)
  | block (on : Bool)
  | level (name : String)
  deriving DecidableEq, Repr

def Change.apply (s : Settings) : Change → Settings
  | exceptionCheck on => { s with probe := { s.probe with exceptionCheck := on } }
  | threshold d => { s with probe := { s.probe with threshold := d } }
  | iterations n => { s with probe := { s.probe with iterations := n } }
  | block on => { s with block := on }
  | level name => { s with logging := { s.logging with level := name } }

structure Changed where
  settings : Settings
  result : Except Stop Unit

/-- Makes changes up to the first that could not be read. -/
def change (s : Settings) : List (Except Stop Change) → Changed
  | [] => ⟨s, .ok ()⟩
  | .ok c :: rest => change (c.apply s) rest
  | .error e :: _ => ⟨s, .error e⟩

/-! ## Reading the text of a setting -/

def refused (key value : String) : Stop :=
  .failed (.invalidValue key value)

/-- A threshold: a duration of at least a microsecond, because the timing detector compares whole
microseconds and less would flag every run. -/
def readThreshold (raw : String) : Except Stop Duration :=
  let trimmed := Text.trim raw.toList
  match Duration.read trimmed with
  | .error .carryOverflow => .error (.crashed Duration.Fault.carryOverflow.message)
  | .error cause => .error (.failed (.invalidDuration (String.ofList trimmed) cause))
  | .ok d => if d.wholeMicros = 0 then .error (refused "timing_threshold" raw) else .ok d

def trueWords : List String := ["1", "true", "yes", "enabled", "on"]

def falseWords : List String := ["0", "false", "no", "disabled", "off"]

/-- The truth value that a text names; blanks around it and the case of ASCII letters do not
matter. -/
def truthValue? (raw : String) : Option Bool :=
  let word := String.ofList ((Text.trim raw.toList).map Char.toLower)
  if trueWords.contains word then some true
  else if falseWords.contains word then some false
  else none

def readBool (key raw : String) : Except Stop Bool :=
  match truthValue? raw with
  | some b => .ok b
  | none => .error (refused key raw)

/-- A number of iterations within the bounds. The failure shows the number, not its text. -/
def checkIterations (key : String) (n : UInt32) : Except Stop UInt32 :=
  if n = 0 ∨ maxIterations < n then .error (refused key (toString n)) else .ok n

def readIterations (key raw : String) : Except Stop UInt32 :=
  match Text.readUnsigned? UInt32.size (Text.trim raw.toList) with
  | some n => checkIterations key (UInt32.ofNat n)
  | none => .error (refused key raw)

end ProcessIntegrity.Settings
