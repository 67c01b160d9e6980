import ProcessIntegrity.Probe.Check
/-!
# Enforcement

What a host program makes of a verdict: a threat is an error when it blocks, and a logged warning
when it only audits.
-/

namespace ProcessIntegrity

inductive Enforcement where
  | block
  | audit
  deriving DecidableEq, Repr

namespace Enforcement

def ofBlock (block : Bool) : Enforcement :=
  if block then .block else .audit

def name : Enforcement → String
  | block => "Block"
  | audit => "Audit"

end Enforcement

structure Violation where
  verdict : Verdict
  deriving DecidableEq, Repr

def Violation.message (v : Violation) : String :=
  s!"integrity violation: {v.verdict.render}"

def enforce (e : Enforcement) (s : ProbeSettings) : Inquiry (Except Violation Verdict) := do
  Inquiry.log .info .integrity "Checking process integrity..."
  let verdict ← check s
  if verdict.isClean then
    Inquiry.log .info .integrity "Environment clean. No debuggers detected."
    return .ok verdict
  else
    Inquiry.log .error .integrity
      s!"Integrity violation! Threat: {verdict.code} - {verdict.threat}"
    match e with
    | .block => return .error ⟨verdict⟩
    | .audit =>
      Inquiry.log .warn .integrity s!"Audit mode: continuing despite {verdict.render}"
      return .ok verdict

end ProcessIntegrity
