import ProcessIntegrity.Probe.Detector
import ProcessIntegrity.Probe.Timing
import ProcessIntegrity.Text.Blank
import ProcessIntegrity.Text.Decimal
import ProcessIntegrity.Text.Lines
/-!
# Linux

On Linux the status text of a process names the process that traces it, which stands in for the
debugger flag. The monotonic clock, in nanoseconds, is the counter. There is no second query for a
debugger and no exception to raise.
-/

namespace ProcessIntegrity.Linux

def tracerLabel : List Char := "TracerPid:".toList

/-- The number of the tracing process in a status text: that of the first line with the label, if it
is a number of 32 bits. -/
def tracerPid? (status : String) : Option Nat :=
  ((Text.lines status.toList).findSome? (tracerLabel.isPrefixOf? ·)).bind fun rest =>
    Text.readUnsigned? UInt32.size (Text.trim rest)

/-- What a process on Linux can observe, with states `σ`: its status text, or why it cannot be read,
and the nanoseconds on its clock. While it works, time passes. -/
structure Machine (σ : Type) where
  status : σ → Except IoFailure String × σ
  clock : σ → Nat × σ
  work : UInt32 → σ → σ

def frequency : UInt64 := 1000000000

def debuggerFlag : Except IoFailure String → Except ProbeError Bool
  | .error cause => .error (.queryFailed Detector.debuggerFlag.name cause)
  | .ok status => .ok ((tracerPid? status).any (0 < ·))

def reading? (nanos : Nat) : Option UInt64 :=
  if nanos < UInt64.size then some (UInt64.ofNat nanos) else none

def host {σ : Type} (m : Machine σ) : Host σ where
  reply
    | .debuggerFlag, s =>
      let (status, s) := m.status s
      (.finished (debuggerFlag status), s)
    | .remoteDebugger, s =>
      (.finished (.error (.unsupported Detector.remoteDebugger.name)), s)
    | .counterFrequency, s => (.finished (some frequency), s)
    | .readCounter, s =>
      let (nanos, s) := m.clock s
      (.finished (reading? nanos), s)
    | .runWorkload iterations, s => (.finished (Timing.workload iterations), m.work iterations s)
    | .raiseException, s =>
      (.finished (.error (.unsupported Detector.exceptionInterception.name)), s)

/-- A process that nobody traces, on a machine that takes ten nanoseconds for a step of the workload
and no time for anything else. Its state is the time. -/
def undisturbed : Machine Nat where
  status now := (.ok "TracerPid:\t0\n", now)
  clock now := (now, now)
  work iterations now := now + 10 * iterations.toNat

/-- A process whose status text is known and whose clock shows the given readings, one after the
other. Its state is the readings to come. -/
def recorded (status : Except IoFailure String) : Machine (List Nat) where
  status later := (status, later)
  clock
    | [] => (0, [])
    | now :: later => (now, later)
  work _ later := later

end ProcessIntegrity.Linux
