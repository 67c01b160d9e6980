import ProcessIntegrity.Duration
import ProcessIntegrity.Text.Blank
import ProcessIntegrity.Text.Decimal
/-!
# Settings

What one probe of the process uses, and what the command-line program uses besides. The defaults
depend on how the program was built: a build can turn the exception check on and can set another
threshold.
-/

namespace ProcessIntegrity

structure ProbeSettings where
  exceptionCheck : Bool
  /-- Elapsed time strictly above this is a timing anomaly. -/
  threshold : Duration
  iterations : UInt32
  deriving DecidableEq, Repr

namespace ProbeSettings

def thresholdMicros (s : ProbeSettings) : Nat :=
  s.threshold.wholeMicros

def render (s : ProbeSettings) : String :=
  s!"ProbeConfig \x7b enable_exception_check: {s.exceptionCheck}, " ++
    s!"timing_threshold: {s.threshold.render}, workload_iterations: {s.iterations} \x7d"

end ProbeSettings

structure LogSettings where
  /-- Write to a file as well. -/
  enabled : Bool
  file : Option String
  level : String
  deriving DecidableEq, Repr

def LogSettings.default : LogSettings := ⟨false, none, "INFO"⟩

structure Settings where
  probe : ProbeSettings
  /-- Fail on a detection instead of only logging it. -/
  block : Bool
  logging : LogSettings
  deriving DecidableEq, Repr

namespace Settings

def defaultThreshold : Duration := .ofMicros 500 (by decide)

def defaultIterations : UInt32 := 1000

/-- The longest workload that settings may ask for. It stays well inside the default threshold. -/
def maxIterations : UInt32 := 10000

/-- A threshold written in whole microseconds, at least one. -/
def thresholdOfMicros? (text : List Char) : Option Duration :=
  match h : Text.readUnsigned? UInt64.size (Text.trim text) with
  | none => none
  | some 0 => none
  | some (n + 1) => some (Duration.ofMicros (n + 1) (Text.readUnsigned?_lt h))

end Settings

structure Build where
  exceptionCheck : Bool := false
  /-- The text of another threshold, in microseconds. A text that is none is ignored. -/
  thresholdMicros : Option String := none

namespace Build

def probe (b : Build) : ProbeSettings where
  exceptionCheck := b.exceptionCheck
  threshold :=
    (b.thresholdMicros.bind fun text => Settings.thresholdOfMicros? text.toList).getD
      Settings.defaultThreshold
  iterations := Settings.defaultIterations

def settings (b : Build) : Settings where
  probe := b.probe
  block := true
  logging := .default

end Build

end ProcessIntegrity
