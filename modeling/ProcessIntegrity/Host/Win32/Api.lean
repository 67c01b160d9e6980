/-!
# The Win32 functions

The functions of the operating system that a probe on Windows calls, as a machine: each answers from
its state and changes it. Truth values are 32-bit integers, zero for false; counters are signed.
-/

namespace ProcessIntegrity.Win32

structure DebuggerQuery where
  /-- Zero when the query failed. -/
  success : Int32
  /-- What was stored, also by a query that failed. -/
  present : Int32
  /-- The number of the error, if it failed. -/
  error : Int32
  deriving DecidableEq, Repr

structure CounterQuery where
  /-- Zero when the query failed. -/
  success : Int32
  value : Int64
  deriving DecidableEq, Repr

/-- A call of the exception handlers by the system. -/
structure Delivery where
  code : UInt32
  /-- Whether the handler gets any information, and in it an exception record. -/
  hasInfo : Bool := true
  hasRecord : Bool := true
  /-- Whether the handler runs on the thread that raised the exception. -/
  sameThread : Bool := true
  deriving DecidableEq, Repr

/-- The code that the handler can see. -/
def Delivery.visibleCode? (d : Delivery) : Option UInt32 :=
  if d.hasInfo && d.hasRecord then some d.code else none

/-- What registering an exception handler answers. -/
structure Registration where
  /-- Zero when the handler was not registered. -/
  handle : UInt64
  /-- The number of the error, if it was not. -/
  error : Int32 := 0
  /-- The calls of handlers before the program goes on, if it was. -/
  early : List Delivery := []
  deriving DecidableEq, Repr

/-- The functions, with states `σ`. Raising an exception tells the calls of handlers that follow. -/
structure Api (σ : Type) where
  isDebuggerPresent : σ → Int32 × σ
  checkRemoteDebuggerPresent : σ → DebuggerQuery × σ
  queryPerformanceFrequency : σ → CounterQuery × σ
  queryPerformanceCounter : σ → CounterQuery × σ
  addVectoredExceptionHandler : σ → Registration × σ
  raiseException : σ → List Delivery × σ
  removeVectoredExceptionHandler : UInt64 → σ → σ

inductive Call where
  | isDebuggerPresent
  | checkRemoteDebuggerPresent (process : Int32)
  | queryPerformanceFrequency
  | queryPerformanceCounter
  | addVectoredExceptionHandler (first : UInt32)
  | raiseException (code flags count : UInt32)
  | handler (code : UInt32) (answer : Int32)
  | removeVectoredExceptionHandler (handle : UInt64)
  deriving DecidableEq, Repr

def hex (n : UInt32) : String :=
  "0x" ++ String.ofList (Nat.toDigits 16 n.toNat)

def Call.render : Call → String
  | isDebuggerPresent => "IsDebuggerPresent"
  | checkRemoteDebuggerPresent process => s!"CheckRemoteDebuggerPresent({process})"
  | queryPerformanceFrequency => "QueryPerformanceFrequency"
  | queryPerformanceCounter => "QueryPerformanceCounter"
  | addVectoredExceptionHandler first => s!"AddVectoredExceptionHandler({first})"
  | raiseException code flags count => s!"RaiseException({hex code},{flags},{count},null)"
  | handler code answer => s!"handler({hex code})={answer}"
  | removeVectoredExceptionHandler handle => s!"RemoveVectoredExceptionHandler({handle})"

end ProcessIntegrity.Win32
