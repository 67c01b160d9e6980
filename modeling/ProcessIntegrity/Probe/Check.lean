import ProcessIntegrity.Probe.Detector
import ProcessIntegrity.Probe.Timing
/-!
# Checking the process

A check tries the detectors that the settings ask for, in order, and ends with the verdict of the
first one that triggers; the later ones are not tried. A detector that cannot conclude counts as not
triggered: a missed detection is preferred to a false one.
-/

namespace ProcessIntegrity

def Detector.inquire (s : ProbeSettings) : Detector → Inquiry (Except ProbeError Bool)
  | debuggerFlag => Inquiry.question .debuggerFlag
  | remoteDebugger => Inquiry.question .remoteDebugger
  | timingAnomaly => Timing.detect s
  | exceptionInterception => do
    return (← Inquiry.question .raiseException).map (· == .intercepted)

def Detector.evaluate (s : ProbeSettings) (d : Detector) : Inquiry Bool := do
  match ← d.inquire s with
  | .ok true =>
    Inquiry.log .warn .prober s!"{d.name} triggered → {d.verdict.render}"
    return true
  | .ok false => return false
  | .error e =>
    Inquiry.log .debug .prober s!"{d.name} inconclusive, treating as clean: {e.message}"
    return false

def firstTriggered (s : ProbeSettings) : List Detector → Inquiry Verdict
  | [] => return .clean
  | d :: rest => do
    if ← d.evaluate s then return d.verdict else firstTriggered s rest

def check (s : ProbeSettings) : Inquiry Verdict :=
  firstTriggered s (Detector.sequence s)

/-- The code of a verdict that crosses the program's boundary. A crash never does: it counts as
clean. -/
def Outcome.boundaryCode : Outcome Verdict → Int32
  | finished v => v.code
  | crashed _ => Verdict.clean.code

end ProcessIntegrity
