import ProcessIntegrity.Host.Script
import ProcessIntegrity.Probe.Timing
/-!
# A scripted host

A host that answers every question from a script of its own and runs the workload as it is. It
stands in for a process in any situation.
-/

namespace ProcessIntegrity.Host

structure Scripts where
  debuggerFlag : Script (Outcome (Except ProbeError Bool)) := ⟨.finished (.ok false), []⟩
  remoteDebugger : Script (Outcome (Except ProbeError Bool)) := ⟨.finished (.ok false), []⟩
  frequency : Script (Outcome (Option UInt64)) := ⟨.finished (some 1000000), []⟩
  counter : Script (Outcome (Option UInt64)) := ⟨.finished (some 0), []⟩
  exception : Script (Outcome (Except ProbeError ExceptionOutcome)) :=
    ⟨.finished (.ok .handledLocally), []⟩

def scripted : Host Scripts where
  reply
    | .debuggerFlag, s =>
      let (answer, script) := s.debuggerFlag.take
      (answer, { s with debuggerFlag := script })
    | .remoteDebugger, s =>
      let (answer, script) := s.remoteDebugger.take
      (answer, { s with remoteDebugger := script })
    | .counterFrequency, s =>
      let (answer, script) := s.frequency.take
      (answer, { s with frequency := script })
    | .readCounter, s =>
      let (answer, script) := s.counter.take
      (answer, { s with counter := script })
    | .runWorkload iterations, s => (.finished (Timing.workload iterations), s)
    | .raiseException, s =>
      let (answer, script) := s.exception.take
      (answer, { s with exception := script })

end ProcessIntegrity.Host
