import ProcessIntegrity.Probe.Inquiry
import ProcessIntegrity.Settings
/-!
# Timing

Stepping through a program, or stopping it, delays work that otherwise always takes about the same
time. The timing detector reads a counter before and after a fixed workload and triggers when
strictly more than the threshold has passed between the two readings, both in whole microseconds.
-/

namespace ProcessIntegrity.Timing

structure Sample where
  start : UInt64
  stop : UInt64
  frequency : UInt64
  deriving DecidableEq, Repr

namespace Sample

/-- Ticks between the readings; none when the counter went backwards. -/
def ticks (s : Sample) : Nat :=
  s.stop.toNat - s.start.toNat

/-- Elapsed whole microseconds. A frequency of zero counts as one. -/
def elapsedMicros (s : Sample) : Nat :=
  s.ticks * 1000000 / max s.frequency.toNat 1

def exceeds (s : Sample) (micros : Nat) : Bool :=
  micros < s.elapsedMicros

end Sample

/-- The workload: a fixed number of steps of a linear congruential sequence, modulo 2⁶⁴. -/
def workload (iterations : UInt32) : UInt64 :=
  iterations.toNat.fold (fun i _ state => state * 6364136223846793005 + UInt64.ofNat i) 0

/-- Takes a sample around a workload. A host without a counter, with a counter that stands still, or
that misses a reading has no timer. -/
def measure (iterations : UInt32) : Inquiry (Except ProbeError Sample) := do
  match ← Inquiry.question .counterFrequency with
  | none => return .error .timerUnavailable
  | some frequency =>
    if frequency = 0 then
      return .error .timerUnavailable
    else
      match ← Inquiry.question .readCounter with
      | none => return .error .timerUnavailable
      | some start =>
        let _ ← Inquiry.question (.runWorkload iterations)
        match ← Inquiry.question .readCounter with
        | none => return .error .timerUnavailable
        | some stop => return .ok ⟨start, stop, frequency⟩

def detect (s : ProbeSettings) : Inquiry (Except ProbeError Bool) := do
  match ← measure s.iterations with
  | .error e => return .error e
  | .ok sample =>
    Inquiry.log .trace .timing
      s!"elapsed={sample.elapsedMicros}us threshold={s.thresholdMicros}us"
    return .ok (sample.exceeds s.thresholdMicros)

end ProcessIntegrity.Timing
