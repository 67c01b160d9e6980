/-!
# Verdicts

The closed set of results of one probe of the running process, their stable numeric codes and the
labels shown with them. A host that receives a code gets the verdict back with `ofCode`; a code
outside the set has a label of its own.
-/

namespace ProcessIntegrity

inductive Verdict where
  | clean
  | debuggerFlag
  | remoteDebugger
  | timingAnomaly
  | exceptionIntercepted
  deriving DecidableEq, Repr

namespace Verdict

def all : List Verdict :=
  [clean, debuggerFlag, remoteDebugger, timingAnomaly, exceptionIntercepted]

def code : Verdict → Int32
  | clean => 0
  | debuggerFlag => 101
  | remoteDebugger => 102
  | timingAnomaly => 105
  | exceptionIntercepted => 106

def threat : Verdict → String
  | clean => "Clean"
  | debuggerFlag => "Basic Debugger (PEB Flag)"
  | remoteDebugger => "Remote Debugger (Debug Port)"
  | timingAnomaly => "Timing Anomaly (Single-Step Latency)"
  | exceptionIntercepted => "Exception Interception"

def unknownThreat : String := "Unknown Anomaly"

def isClean : Verdict → Bool
  | clean => true
  | _ => false

def ofCode? (c : Int32) : Option Verdict :=
  all.find? fun v => v.code == c

/-- The verdict that has this code; a code outside the set comes back as it is. -/
def ofCode (c : Int32) : Except Int32 Verdict :=
  match ofCode? c with
  | some v => .ok v
  | none => .error c

def describe (c : Int32) : String :=
  ((ofCode? c).map threat).getD unknownThreat

/-- A verdict in messages: its label, then its code in brackets. -/
def render (v : Verdict) : String :=
  s!"{v.threat} ({v.code})"

theorem ofCode?_code (v : Verdict) : ofCode? v.code = some v := by
  cases v <;> decide

theorem ofCode?_eq_some_iff {c : Int32} {v : Verdict} : ofCode? c = some v ↔ v.code = c := by
  constructor
  · intro h
    rw [ofCode?] at h
    have hcode := List.find?_some h
    exact eq_of_beq hcode
  · rintro rfl
    exact ofCode?_code v

theorem ofCode?_eq_none_iff {c : Int32} : ofCode? c = none ↔ ∀ v : Verdict, v.code ≠ c := by
  constructor
  · rintro h v rfl
    rw [ofCode?_code] at h
    cases h
  · intro h
    rw [ofCode?, List.find?_eq_none]
    intro v _
    exact fun hcode => h v (eq_of_beq hcode)

theorem isClean_iff {v : Verdict} : v.isClean = true ↔ v = clean := by
  cases v <;> decide

end Verdict

end ProcessIntegrity
