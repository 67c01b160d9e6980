import ProcessIntegrity.Proofs.Probe.Threshold
/-!
# The end of an answered check

What the policy makes of a host that answers every question: one lemma for each place where a check
can end, up to the timing detector. What comes behind it is said by `policy_of_passed` and
`policy_of_passed_exception`. The replies stay variables here, so that a host has only to say what
it replies.
-/

namespace ProcessIntegrity

variable {s : ProbeSettings} {flag remote : Except ProbeError Bool} {t : List Exchange}
  {sample : Except ProbeError Timing.Sample}

theorem tried_debuggerFlag {answer : Bool} (hflag : affirmed flag = answer) :
    Tried s .debuggerFlag [⟨.debuggerFlag, .finished flag⟩] (.finished answer) := by
  rw [← hflag]
  exact .debuggerFlag (.finished flag)

theorem tried_remoteDebugger {answer : Bool} (hremote : affirmed remote = answer) :
    Tried s .remoteDebugger [⟨.remoteDebugger, .finished remote⟩] (.finished answer) := by
  rw [← hremote]
  exact .remoteDebugger (.finished remote)

theorem tried_timingAnomaly {answer : Bool} (hmeasured : Measured s.iterations t (.finished sample))
    (hsample : anomalous s sample = answer) :
    Tried s .timingAnomaly t (.finished answer) := by
  rw [← hsample]
  exact .timingAnomaly hmeasured

theorem policy_debuggerFlag (hflag : affirmed flag = true) :
    Policy s [⟨.debuggerFlag, .finished flag⟩] (.finished .debuggerFlag) :=
  .triggers (tried_debuggerFlag hflag)

theorem policy_remoteDebugger (hflag : affirmed flag = false) (hremote : affirmed remote = true) :
    Policy s [⟨.debuggerFlag, .finished flag⟩, ⟨.remoteDebugger, .finished remote⟩]
      (.finished .remoteDebugger) :=
  .passes (tried_debuggerFlag hflag) (.triggers (tried_remoteDebugger hremote))

/-- The transcript of a check whose first two questions are answered with no, or not at all. -/
def unflagged (flag remote : Except ProbeError Bool) (t : List Exchange) : List Exchange :=
  ⟨.debuggerFlag, .finished flag⟩ :: ⟨.remoteDebugger, .finished remote⟩ :: t

theorem policy_timingAnomaly (hflag : affirmed flag = false) (hremote : affirmed remote = false)
    (hmeasured : Measured s.iterations t (.finished sample)) (hsample : anomalous s sample = true) :
    Policy s (unflagged flag remote t) (.finished .timingAnomaly) :=
  .passes (tried_debuggerFlag hflag) (.passes (tried_remoteDebugger hremote)
    (.triggers (tried_timingAnomaly hmeasured hsample)))

theorem passed_timingAnomaly (hflag : affirmed flag = false) (hremote : affirmed remote = false)
    (hmeasured : Measured s.iterations t (.finished sample))
    (hsample : anomalous s sample = false) :
    Passed s [.debuggerFlag, .remoteDebugger, .timingAnomaly] (unflagged flag remote t) := by
  have hlast : Passed s [.timingAnomaly] t := by
    rw [← List.append_nil t]
    exact .cons (tried_timingAnomaly hmeasured hsample) .nil
  exact .cons (tried_debuggerFlag hflag) (.cons (tried_remoteDebugger hremote) hlast)

end ProcessIntegrity
