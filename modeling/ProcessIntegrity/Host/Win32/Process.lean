import ProcessIntegrity.Host.Win32.Api
import ProcessIntegrity.Probe.Detector
import ProcessIntegrity.Probe.Timing
/-!
# Windows

A process on Windows as a host. It asks the system about debuggers and counters, and to find out who
takes exceptions it registers a handler, raises a harmless exception, sees whether the handler was
called on the same thread, and takes the handler away again.
-/

namespace ProcessIntegrity.Win32

/-- The exception that is raised: a console interrupt, inert unless someone waits for it. -/
def probeCode : UInt32 := 0x40010005

def continueExecution : Int32 := -1

def continueSearch : Int32 := 0

/-- The handle that stands for the process itself. -/
def currentProcess : Int32 := -1

/-- A process: the system around it, whether the handler has been called on its thread since the
mark was last cleared, the registered handlers in the order of their calls, and the calls made. -/
structure Process (σ : Type) where
  system : σ
  observed : Bool := false
  handlers : List UInt64 := []
  calls : List Call := []

variable {σ : Type}

namespace Process

def called (p : Process σ) (c : Call) : Process σ :=
  { p with calls := p.calls ++ [c] }

/-! ## Exceptions -/

/-- What the handler answers to a delivery: it takes the exception of the probe and no other. -/
def answerTo (d : Delivery) : Int32 :=
  if d.visibleCode? = some probeCode then continueExecution else continueSearch

/-- Calls handlers in order until one lets the program go on. The mark belongs to the thread. -/
def callHandlers (d : Delivery) : List UInt64 → Process σ → Process σ
  | [], p => p
  | _ :: rest, p =>
    let p := p.called (.handler d.code (answerTo d))
    if answerTo d = continueExecution then
      { p with observed := p.observed || d.sameThread }
    else
      callHandlers d rest p

def deliver (ds : List Delivery) (p : Process σ) : Process σ :=
  ds.foldl (fun p d => callHandlers d p.handlers p) p

def raiseException (api : Api σ) (p : Process σ) :
    Except ProbeError ExceptionOutcome × Process σ :=
  let (registration, system) := api.addVectoredExceptionHandler p.system
  let p := { p with system }.called (.addVectoredExceptionHandler 1)
  let handle := registration.handle
  if handle = 0 then
    (.error (.queryFailed Detector.exceptionInterception.name (.os registration.error)), p)
  else
    let p := deliver registration.early { p with handlers := handle :: p.handlers }
    let (deliveries, system) := api.raiseException p.system
    let p := { p with system, observed := false }.called (.raiseException probeCode 0 0)
    let p := deliver deliveries p
    let outcome := if p.observed then .handledLocally else .intercepted
    let removed : Process σ :=
      { p with
        system := api.removeVectoredExceptionHandler handle p.system
        handlers := p.handlers.erase handle }
    (.ok outcome, removed.called (.removeVectoredExceptionHandler handle))

/-! ## Queries -/

def debuggerFlag (api : Api σ) (p : Process σ) : Except ProbeError Bool × Process σ :=
  let (present, system) := api.isDebuggerPresent p.system
  (.ok (present ≠ 0), { p with system }.called .isDebuggerPresent)

/-- A query that failed tells nothing, whatever it stored. -/
def remoteDebugger (api : Api σ) (p : Process σ) : Except ProbeError Bool × Process σ :=
  let (query, system) := api.checkRemoteDebuggerPresent p.system
  let answer :=
    if query.success = 0 then .error (.queryFailed Detector.remoteDebugger.name (.os query.error))
    else .ok (query.present ≠ 0)
  (answer, { p with system }.called (.checkRemoteDebuggerPresent currentProcess))

/-- The frequency has to be positive. -/
def counterFrequency (api : Api σ) (p : Process σ) : Option UInt64 × Process σ :=
  let (query, system) := api.queryPerformanceFrequency p.system
  let answer := if query.success ≠ 0 ∧ 0 < query.value then some query.value.toUInt64 else none
  (answer, { p with system }.called .queryPerformanceFrequency)

/-- A reading may not be negative. -/
def readCounter (api : Api σ) (p : Process σ) : Option UInt64 × Process σ :=
  let (query, system) := api.queryPerformanceCounter p.system
  let answer := if query.success ≠ 0 ∧ 0 ≤ query.value then some query.value.toUInt64 else none
  (answer, { p with system }.called .queryPerformanceCounter)

end Process

def host (api : Api σ) : Host (Process σ) where
  reply
    | .debuggerFlag, p =>
      let (answer, p) := p.debuggerFlag api
      (.finished answer, p)
    | .remoteDebugger, p =>
      let (answer, p) := p.remoteDebugger api
      (.finished answer, p)
    | .counterFrequency, p =>
      let (answer, p) := p.counterFrequency api
      (.finished answer, p)
    | .readCounter, p =>
      let (answer, p) := p.readCounter api
      (.finished answer, p)
    | .runWorkload iterations, p => (.finished (Timing.workload iterations), p)
    | .raiseException, p =>
      let (answer, p) := p.raiseException api
      (.finished answer, p)

end ProcessIntegrity.Win32
