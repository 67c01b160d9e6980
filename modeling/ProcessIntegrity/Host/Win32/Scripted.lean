import ProcessIntegrity.Host.Script
import ProcessIntegrity.Host.Win32.Process
/-!
# A scripted Windows

The Win32 functions with an answer script for each. Handles count the handlers that were registered.
-/

namespace ProcessIntegrity.Win32

open Host (Script)

structure Scripts where
  isDebuggerPresent : Script Int32 := ⟨0, []⟩
  checkRemoteDebuggerPresent : Script DebuggerQuery := ⟨⟨1, 0, 0⟩, []⟩
  queryPerformanceFrequency : Script CounterQuery := ⟨⟨1, 10000000⟩, []⟩
  queryPerformanceCounter : Script CounterQuery := ⟨⟨1, 0⟩, []⟩
  addVectoredExceptionHandler : Script (Option Int32) := ⟨none, []⟩
  raiseException : Script (List Delivery) := ⟨[{ code := probeCode }], []⟩
  registered : UInt64 := 0

abbrev ScriptedProcess := Process Scripts

def scripted : Api Scripts where
  isDebuggerPresent s :=
    let (answer, script) := s.isDebuggerPresent.take
    (answer, { s with isDebuggerPresent := script })
  checkRemoteDebuggerPresent s :=
    let (answer, script) := s.checkRemoteDebuggerPresent.take
    (answer, { s with checkRemoteDebuggerPresent := script })
  queryPerformanceFrequency s :=
    let (answer, script) := s.queryPerformanceFrequency.take
    (answer, { s with queryPerformanceFrequency := script })
  queryPerformanceCounter s :=
    let (answer, script) := s.queryPerformanceCounter.take
    (answer, { s with queryPerformanceCounter := script })
  addVectoredExceptionHandler s :=
    let (refusal, script) := s.addVectoredExceptionHandler.take
    let s := { s with addVectoredExceptionHandler := script }
    match refusal with
    | some error => ({ handle := 0, error }, s)
    | none => ({ handle := s.registered + 1 }, { s with registered := s.registered + 1 })
  raiseException s :=
    let (deliveries, script) := s.raiseException.take
    (deliveries, { s with raiseException := script })
  removeVectoredExceptionHandler _ s := s

end ProcessIntegrity.Win32
