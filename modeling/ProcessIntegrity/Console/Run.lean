import ProcessIntegrity.Probe.Enforcement
import ProcessIntegrity.Settings.Load
import ProcessIntegrity.Settings.Override
/-!
# The command-line program

One run of the program: settings are loaded and overridden, logging is set up, the process is
checked once and the verdict is enforced. Whatever fails before the check ends the run with status 1
and no verdict; after it the status is the code of a blocked verdict, and zero otherwise. The world
outside comes in as values: the content of the settings file, the environment, what opening the log
file comes to, and a host.
-/

namespace ProcessIntegrity.Console

open Settings (Stop Environment)

structure Refusal where
  context : String
  text : String
  deriving DecidableEq, Repr

def Refusal.line (time : String) (r : Refusal) : String :=
  s!"[{time}][ERROR][{r.context}] {r.text}"

inductive Halt where
  | refused (why : Refusal)
  | crashed (message : String)
  deriving DecidableEq, Repr

/-! ## Settings -/

/-- A failure with its cause behind it. -/
def chain (why : Settings.Failure) : String :=
  match why.cause? with
  | none => why.message
  | some cause => s!"{why.message}: {cause}"

def halt (doing : String) : Stop → Halt
  | .failed why => .refused ⟨"config", s!"{doing}: {chain why}"⟩
  | .crashed message => .crashed message

def configure (build : Build) (path : String) (content : Except IoFailure String)
    (env : Environment) : Except Halt Settings :=
  match (Settings.loadOrDefault build.settings path content).result with
  | .error stop => .error (halt s!"loading {path}" stop)
  | .ok loaded =>
    let overridden := loaded.override env
    match overridden.result with
    | .error stop => .error (halt "applying NATIVE_GUARD_* overrides" stop)
    | .ok () => .ok overridden.settings

/-! ## Logging -/

/-- A text in capital letters, as far as names of levels go: one ligature stands for two letters. -/
def capitals (s : List Char) : List Char :=
  s.flatMap fun c => if c = 'ﬀ' then ['F', 'F'] else [c.toUpper]

/-- The limit that a level name stands for. Any other text stands for `INFO`. -/
def limitNamed (name : String) : Log.Limit :=
  match String.ofList (capitals name.toList) with
  | "OFF" => none
  | "ERROR" => some .error
  | "WARN" => some .warn
  | "DEBUG" => some .debug
  | "TRACE" => some .trace
  | _ => some .info

def logFile? (s : LogSettings) : Option String :=
  if s.enabled then some (s.file.getD "guard.log") else none

def openLog (tryOpen : String → Except IoFailure Unit) (s : LogSettings) : Except Halt Unit :=
  match (logFile? s).map tryOpen with
  | some (.error why) =>
    .error (.refused ⟨"logging", s!"IO Error initializing logger: {why.message}"⟩)
  | _ => .ok ()

/-! ## Checking -/

structure Judgement where
  verdict : Verdict
  status : Int32
  deriving DecidableEq, Repr

def Judgement.line (j : Judgement) : String :=
  s!"{j.verdict.code} {j.verdict.threat}"

def session (s : Settings) : Inquiry Judgement := do
  Inquiry.log .info .program s!"Probe configured: {s.probe.render}"
  match ← enforce (.ofBlock s.block) s.probe with
  | .ok verdict => return ⟨verdict, 0⟩
  | .error violation =>
    Inquiry.log .error .program s!"Blocking: {violation.message}"
    return ⟨violation.verdict, violation.verdict.code⟩

/-! ## The whole run -/

structure World (σ : Type) where
  build : Build
  path : String
  content : Except IoFailure String
  env : Environment
  tryOpen : String → Except IoFailure Unit
  host : Host σ

def prepare {σ : Type} (w : World σ) : Except Halt Settings := do
  let s ← configure w.build w.path w.content w.env
  openLog w.tryOpen s.logging
  return s

structure Report where
  status : Int32
  questions : List ((q : Query) × Outcome q.Answer) := []
  records : List Log.Record := []
  logFile : Option String := none
  judgement : Option Judgement := none
  halt : Option Halt := none

def refusedStatus : Int32 := 1

def crashedStatus : Int32 := 101

def Halt.status : Halt → Int32
  | refused _ => refusedStatus
  | crashed _ => crashedStatus

def run {σ : Type} (w : World σ) (s₀ : σ) : Report :=
  match prepare w with
  | .error h => { status := h.status, halt := some h }
  | .ok s =>
    let checked := Inquiry.run w.host (session s) s₀
    let records := Log.kept (limitNamed s.logging.level) checked.records
    match checked.outcome with
    | .finished j =>
      { status := j.status, questions := checked.questions, records,
        logFile := logFile? s.logging, judgement := some j }
    | .crashed message =>
      { status := crashedStatus, questions := checked.questions, records,
        logFile := logFile? s.logging, halt := some (.crashed message) }

namespace Report

def logLines (r : Report) (stamp : Log.Stamp) : List String :=
  r.records.map (·.programLine stamp)

def verdictLine? (r : Report) : Option String :=
  r.judgement.map Judgement.line

end Report

end ProcessIntegrity.Console
