import ProcessIntegrity.Settings
import ProcessIntegrity.Verdict
/-!
# Detectors

The independent checks that a probe consists of, in the order in which they are tried: the cheapest
and most certain ones first.
-/

namespace ProcessIntegrity

inductive Detector where
  | debuggerFlag
  | remoteDebugger
  | timingAnomaly
  | exceptionInterception
  deriving DecidableEq, Repr

namespace Detector

/-- Every detector, in the order in which they are tried. -/
def priority : List Detector :=
  [debuggerFlag, remoteDebugger, timingAnomaly, exceptionInterception]

/-- The verdict of a probe in which this detector triggers first. -/
def verdict : Detector → Verdict
  | debuggerFlag => .debuggerFlag
  | remoteDebugger => .remoteDebugger
  | timingAnomaly => .timingAnomaly
  | exceptionInterception => .exceptionIntercepted

def name : Detector → String
  | debuggerFlag => "debugger_flag"
  | remoteDebugger => "remote_debugger"
  | timingAnomaly => "timing_anomaly"
  | exceptionInterception => "exception_interception"

def named? (name : String) : Option Detector :=
  priority.find? fun d => d.name == name

/-- Whether the settings ask for the detector. Only the exception detector can be left out. -/
def enabled (s : ProbeSettings) : Detector → Bool
  | exceptionInterception => s.exceptionCheck
  | _ => true

def sequence (s : ProbeSettings) : List Detector :=
  priority.filter (enabled s)

theorem sequence_eq (s : ProbeSettings) :
    sequence s = if s.exceptionCheck then priority else priority.take 3 := by
  cases h : s.exceptionCheck <;> simp [sequence, priority, List.filter, enabled, h]

theorem verdict_ne_clean (d : Detector) : d.verdict ≠ .clean := by
  cases d <;> decide

end Detector

end ProcessIntegrity
