import ProcessIntegrity.Host.Win32.Scripted
import ProcessIntegrity.Proofs.Probe.Transcript
/-!
# The exception probe on Windows

An attempt to raise the exception registers a handler, and that has two dangers: that a mark which
an earlier attempt left on the thread decides, and that a handler stays behind. Neither happens,
however often the probe is made and whatever the system does to the handler (`attempts_sound`). An
attempt says that the exception was handled locally if and only if a handler was shown it after the
mark was cleared, and it takes its own handler away again.
-/

namespace ProcessIntegrity.Win32

variable {σ : Type}

/-! ## What a delivery does -/

namespace Delivery

def ShowsProbe (d : Delivery) : Prop :=
  d.hasInfo = true ∧ d.hasRecord = true ∧ d.code = probeCode

instance (d : Delivery) : Decidable d.ShowsProbe :=
  inferInstanceAs (Decidable (_ ∧ _ ∧ _))

/-- The handler is shown the exception of the probe, on the thread that raised it. -/
def Marks (d : Delivery) : Prop :=
  d.ShowsProbe ∧ d.sameThread = true

instance (d : Delivery) : Decidable d.Marks :=
  inferInstanceAs (Decidable (_ ∧ _))

/-- The calls of so many handlers: the first one takes the exception of the probe, and any other
exception goes on to the last. -/
def calls (handlers : Nat) (d : Delivery) : List Call :=
  if d.ShowsProbe then [.handler d.code continueExecution]
  else List.replicate handlers (.handler d.code continueSearch)

theorem visibleCode?_eq_probeCode_iff {d : Delivery} :
    d.visibleCode? = some probeCode ↔ d.ShowsProbe := by
  obtain ⟨code, hasInfo, hasRecord, sameThread⟩ := d
  cases hasInfo <;> cases hasRecord <;> simp [visibleCode?, ShowsProbe]

end Delivery

namespace Process

theorem answerTo_eq (d : Delivery) :
    answerTo d = if d.ShowsProbe then continueExecution else continueSearch := by
  unfold answerTo
  simp only [Delivery.visibleCode?_eq_probeCode_iff]

theorem callHandlers_of_showsProbe {d : Delivery} (h : d.ShowsProbe) (handle : UInt64)
    (later : List UInt64) (p : Process σ) :
    callHandlers d (handle :: later) p =
      { p with
        observed := p.observed || d.sameThread
        calls := p.calls ++ [.handler d.code continueExecution] } := by
  have hanswer : answerTo d = continueExecution := by rw [answerTo_eq, if_pos h]
  rw [callHandlers, if_pos hanswer, hanswer]
  rfl

theorem callHandlers_of_not_showsProbe {d : Delivery} (h : ¬ d.ShowsProbe) (handlers : List UInt64)
    (p : Process σ) :
    callHandlers d handlers p =
      { p with
        calls := p.calls ++ List.replicate handlers.length (.handler d.code continueSearch) } := by
  have hanswer : answerTo d = continueSearch := by rw [answerTo_eq, if_neg h]
  have hne : continueSearch ≠ continueExecution := by decide
  induction handlers generalizing p with
  | nil => simp [callHandlers]
  | cons handle later ih =>
      rw [callHandlers, hanswer, if_neg hne, ih]
      simp [called, List.replicate_succ]

/-- A delivery marks the thread or leaves it as it was, and changes nothing else. -/
theorem callHandlers_eq (d : Delivery) {handlers : List UInt64} (h : handlers ≠ [])
    (p : Process σ) :
    callHandlers d handlers p =
      { p with
        observed := p.observed || decide d.Marks
        calls := p.calls ++ d.calls handlers.length } := by
  obtain ⟨handle, later, rfl⟩ := List.exists_cons_of_ne_nil h
  by_cases hshows : d.ShowsProbe
  · have hmarks : decide d.Marks = d.sameThread := by simp [Delivery.Marks, hshows]
    rw [callHandlers_of_showsProbe hshows, Delivery.calls, if_pos hshows, hmarks]
  · have hmarks : decide d.Marks = false := by simp [Delivery.Marks, hshows]
    rw [callHandlers_of_not_showsProbe hshows, Delivery.calls, if_neg hshows, hmarks,
      Bool.or_false]

theorem deliver_eq (ds : List Delivery) (p : Process σ) (h : p.handlers ≠ []) :
    deliver ds p =
      { p with
        observed := p.observed || decide (∃ d ∈ ds, d.Marks)
        calls := p.calls ++ ds.flatMap (Delivery.calls p.handlers.length) } := by
  induction ds generalizing p with
  | nil => simp [deliver]
  | cons d ds ih =>
      have hstep : deliver (d :: ds) p = deliver ds (callHandlers d p.handlers p) := rfl
      -- No handler goes while they are called, so there is one for the next delivery too.
      have hhandlers : (callHandlers d p.handlers p).handlers ≠ [] := by
        rw [callHandlers_eq d h]
        exact h
      rw [hstep, ih _ hhandlers, callHandlers_eq d h]
      simp [Bool.or_assoc]

end Process

/-! ## Attempts -/

structure Attempt (σ : Type) where
  before : Process σ
  result : Except ProbeError ExceptionOutcome
  after : Process σ

namespace Attempt

def of (api : Api σ) (p : Process σ) : Attempt σ :=
  ⟨p, (p.raiseException api).1, (p.raiseException api).2⟩

/-- An attempt without a handler: it has asked for one, and tells why it did not get it. -/
def refused (p : Process σ) (error : Int32) (system : σ) : Attempt σ where
  before := p
  result := .error (.queryFailed "exception_interception" (.os error))
  after := { p with system, calls := p.calls ++ [.addVectoredExceptionHandler 1] }

/-- An attempt with a handler. What is delivered while the exception is raised decides; what was
delivered early does not, and neither does a mark that was there before. The handler goes at the
end. -/
def granted (p : Process σ) (handle : UInt64) (early deliveries : List Delivery) (system : σ) :
    Attempt σ where
  before := p
  result := .ok (if ∃ d ∈ deliveries, d.Marks then .handledLocally else .intercepted)
  after :=
    { system
      observed := decide (∃ d ∈ deliveries, d.Marks)
      handlers := p.handlers
      calls := p.calls ++
        [.addVectoredExceptionHandler 1] ++
        early.flatMap (Delivery.calls (p.handlers.length + 1)) ++
        [.raiseException probeCode 0 0] ++
        deliveries.flatMap (Delivery.calls (p.handlers.length + 1)) ++
        [.removeVectoredExceptionHandler handle] }

/-- The attempt is what the answers of the system make it. A handle of zero is no handle. -/
inductive Sound (api : Api σ) : Attempt σ → Prop
  | refused {p : Process σ} {answer : Registration} {system : σ} :
      api.addVectoredExceptionHandler p.system = (answer, system) → answer.handle = 0 →
      Sound api (.refused p answer.error system)
  | granted {p : Process σ} {answer : Registration} {deliveries : List Delivery}
      {registered raised : σ} :
      api.addVectoredExceptionHandler p.system = (answer, registered) → answer.handle ≠ 0 →
      api.raiseException registered = (deliveries, raised) →
      Sound api (.granted p answer.handle answer.early deliveries
        (api.removeVectoredExceptionHandler answer.handle raised))

section

variable {api : Api σ} {p : Process σ} {answer : Registration}

theorem of_eq_refused {system : σ} (h : api.addVectoredExceptionHandler p.system = (answer, system))
    (hnull : answer.handle = 0) : of api p = refused p answer.error system := by
  unfold of Process.raiseException
  simp only [h, if_pos hnull]
  rfl

theorem of_eq_granted {deliveries : List Delivery} {registered raised : σ}
    (hregistered : api.addVectoredExceptionHandler p.system = (answer, registered))
    (hhandle : answer.handle ≠ 0)
    (hraised : api.raiseException registered = (deliveries, raised)) :
    of api p = granted p answer.handle answer.early deliveries
      (api.removeVectoredExceptionHandler answer.handle raised) := by
  simp [of, granted, Process.raiseException, hregistered, hhandle, hraised, Process.called,
    Process.deliver_eq]

end

theorem sound_of (api : Api σ) (p : Process σ) : (of api p).Sound api := by
  rcases hregistered : api.addVectoredExceptionHandler p.system with ⟨answer, registered⟩
  by_cases hnull : answer.handle = 0
  · rw [of_eq_refused hregistered hnull]
    exact .refused hregistered hnull
  · rcases hraised : api.raiseException registered with ⟨deliveries, raised⟩
    rw [of_eq_granted hregistered hnull hraised]
    exact .granted hregistered hnull hraised

theorem Sound.handlers {api : Api σ} {a : Attempt σ} (h : a.Sound api) :
    a.after.handlers = a.before.handlers := by
  cases h with
  | refused _ _ => rfl
  | granted _ _ _ => rfl

end Attempt

/-! ## Successive attempts -/

def attempts (api : Api σ) : Nat → Process σ → List (Attempt σ)
  | 0, _ => []
  | n + 1, p => .of api p :: attempts api n (Attempt.of api p).after

inductive Successive (api : Api σ) : Process σ → List (Attempt σ) → Prop
  | nil (p : Process σ) : Successive api p []
  | cons {a : Attempt σ} {later : List (Attempt σ)} :
      a.Sound api → Successive api a.after later → Successive api a.before (a :: later)

theorem length_attempts (api : Api σ) (n : Nat) (p : Process σ) :
    (attempts api n p).length = n := by
  induction n generalizing p with
  | zero => rfl
  | succ n ih => rw [attempts, List.length_cons, ih]

theorem successive_attempts (api : Api σ) (n : Nat) (p : Process σ) :
    Successive api p (attempts api n p) := by
  induction n generalizing p with
  | zero => exact .nil p
  | succ n ih => exact .cons (Attempt.sound_of api p) (ih _)

theorem Successive.handlers {api : Api σ} {p : Process σ} {as : List (Attempt σ)}
    (h : Successive api p as) :
    ∀ a ∈ as, a.before.handlers = p.handlers ∧ a.after.handlers = p.handlers := by
  induction h with
  | nil p => simp
  | @cons a later hsound _ ih =>
      intro b hb
      rcases List.mem_cons.1 hb with rfl | hb
      · exact ⟨rfl, hsound.handlers⟩
      · rw [← hsound.handlers]
        exact ih b hb

/-! ## Probes on Windows -/

theorem handlers_reply (api : Api σ) (q : Query) (p : Process σ) :
    ((host api).reply q p).2.handlers = p.handlers := by
  cases q with
  | debuggerFlag | remoteDebugger | counterFrequency | readCounter | runWorkload _ => rfl
  | raiseException => exact (Attempt.sound_of api p).handlers

theorem handlers_of_replies {api : Api σ} {p p' : Process σ} {t : List Exchange}
    (h : (host api).Replies p t p') : p'.handlers = p.handlers := by
  induction h with
  | nil p => rfl
  | @cons q reply p p' p'' later hreply _ ih =>
      have hfirst := handlers_reply api q p
      rw [hreply] at hfirst
      exact ih.trans hfirst

/-- Any number of successive attempts are sound, on any system and whatever mark the first one
finds; each leaves the handlers as the first one found them, and so does whatever else a probe
asks. -/
theorem attempts_sound {σ : Type} (api : Api σ) (n : Nat) (p : Process σ) :
    (attempts api n p).length = n ∧ Successive api p (attempts api n p) ∧
      (∀ a ∈ attempts api n p, a.before.handlers = p.handlers ∧ a.after.handlers = p.handlers) ∧
      ∀ {α : Type} (x : Inquiry α),
        (Inquiry.run (host api) x p).state.handlers = p.handlers := by
  have hsuccessive := successive_attempts api n p
  refine ⟨length_attempts api n p, hsuccessive, hsuccessive.handlers, ?_⟩
  intro α x
  exact handlers_of_replies (Inquiry.replies_allows_run (host api) x p).1

/-- An exception that the first handler saw does not count for the second. -/
example :
    (attempts scripted 2
        { system := { raiseException := ⟨[{ code := probeCode }], [[{ code := 0 }]]⟩ } }).map
      Attempt.result = [.ok .handledLocally, .ok .intercepted] := by
  rfl

end ProcessIntegrity.Win32
