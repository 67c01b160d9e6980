import ProcessIntegrity.IoFailure
import ProcessIntegrity.Log
/-!
# Inquiries

Everything a probe learns about the process, it learns by asking the host. An inquiry is a probe
before any host has answered: a tree that ends with a result, writes a log record and goes on, or
asks a question and goes on with each possible answer. `run` follows the tree with a host, which is
any machine that answers, fails or crashes and may change its state at every question.
-/

namespace ProcessIntegrity

/-- Why a question to the host has no answer. `probe` names the detector it was asked for. -/
inductive ProbeError where
  | unsupported (probe : String)
  | queryFailed (probe : String) (cause : IoFailure)
  | timerUnavailable
  deriving DecidableEq, Repr

namespace ProbeError

def message : ProbeError → String
  | unsupported probe => s!"probe '{probe}' is not supported on this platform"
  | queryFailed probe cause => s!"probe '{probe}' query failed: {cause.message}"
  | timerUnavailable => "high-resolution counter unavailable"

def cause? : ProbeError → Option IoFailure
  | queryFailed _ cause => some cause
  | _ => none

end ProbeError

inductive ExceptionOutcome where
  /-- The local handler saw it. -/
  | handledLocally
  /-- Something before the local handler took it. -/
  | intercepted
  deriving DecidableEq, Repr

inductive Query where
  | debuggerFlag
  | remoteDebugger
  | counterFrequency
  | readCounter
  | runWorkload (iterations : UInt32)
  | raiseException
  deriving DecidableEq, Repr

abbrev Query.Answer : Query → Type
  | debuggerFlag | remoteDebugger => Except ProbeError Bool
  | counterFrequency | readCounter => Option UInt64
  | runWorkload _ => UInt64
  | raiseException => Except ProbeError ExceptionOutcome

/-- The end of something that a host does: a value, or a crash with its message. -/
inductive Outcome (α : Type) where
  | finished (value : α)
  | crashed (message : String)
  deriving DecidableEq, Repr

/-- A host with states `σ`: to every question in every state a reply, and the state after it. -/
structure Host (σ : Type) where
  reply : (q : Query) → σ → Outcome q.Answer × σ

inductive Inquiry (α : Type) : Type where
  | done (result : α)
  | note (r : Log.Record) (next : Inquiry α)
  | ask (q : Query) (next : q.Answer → Inquiry α)

namespace Inquiry

variable {α β σ : Type}

def bind : Inquiry α → (α → Inquiry β) → Inquiry β
  | done a, f => f a
  | note r next, f => note r (next.bind f)
  | ask q next, f => ask q fun answer => (next answer).bind f

instance : Monad Inquiry where
  pure := done
  bind := bind

def question (q : Query) : Inquiry q.Answer :=
  ask q done

def log (level : Log.Level) (component : Log.Component) (message : String) : Inquiry Unit :=
  note ⟨level, component, message⟩ (done ())

/-! ## Running -/

inductive Event where
  | asked (q : Query) (reply : Outcome q.Answer)
  | noted (r : Log.Record)

structure Run (σ α : Type) where
  outcome : Outcome α
  state : σ
  events : List Event

def Run.after (e : Event) (r : Run σ α) : Run σ α :=
  { r with events := e :: r.events }

/-- Follows an inquiry with a host. A crash ends it. -/
def run (host : Host σ) : Inquiry α → σ → Run σ α
  | done a, s => ⟨.finished a, s, []⟩
  | note r next, s => (run host next s).after (.noted r)
  | ask q next, s =>
    match host.reply q s with
    | (.finished answer, s) => (run host (next answer) s).after (.asked q (.finished answer))
    | (.crashed message, s) => ⟨.crashed message, s, [.asked q (.crashed message)]⟩

namespace Run

def questions (r : Run σ α) : List ((q : Query) × Outcome q.Answer) :=
  r.events.filterMap fun
    | .asked q reply => some ⟨q, reply⟩
    | .noted _ => none

def records (r : Run σ α) : List Log.Record :=
  r.events.filterMap fun
    | .noted record => some record
    | .asked .. => none

end Run

/-! ## The laws of sequencing -/

theorem bind_done (x : Inquiry α) : x.bind done = x := by
  induction x with
  | done a => rfl
  | note r next ih => simp [bind, ih]
  | ask q next ih => simp [bind, ih]

theorem bind_assoc {γ : Type} (x : Inquiry α) (f : α → Inquiry β) (g : β → Inquiry γ) :
    (x.bind f).bind g = x.bind fun a => (f a).bind g := by
  induction x with
  | done a => rfl
  | note r next ih => simp [bind, ih]
  | ask q next ih => simp [bind, ih]

instance : LawfulMonad Inquiry :=
  LawfulMonad.mk' Inquiry bind_done (fun _ _ => rfl) bind_assoc

end Inquiry

end ProcessIntegrity
