import ProcessIntegrity.Probe.Inquiry
/-!
# Transcripts

All that a host sees of an inquiry is the transcript: the questions with their replies, in order.
Two things decide a run and they are kept apart here. `Inquiry.Allows` says which transcripts an
inquiry can leave, whatever host it meets; `Host.Replies` says which transcripts a host can leave,
whatever asks it. A run is the one transcript that both agree on (`interview_run_iff`).
-/

namespace ProcessIntegrity

abbrev Exchange := (q : Query) × Outcome q.Answer

namespace Outcome

variable {α β : Type}

def map (f : α → β) : Outcome α → Outcome β
  | finished a => finished (f a)
  | crashed message => crashed message

@[simp] theorem map_finished (f : α → β) (a : α) : (finished a).map f = finished (f a) := rfl

@[simp] theorem map_crashed (f : α → β) (message : String) :
    (crashed message).map f = crashed message := rfl

end Outcome

/-- The host gives these replies to these questions, each in the state that the one before left. -/
inductive Host.Replies {σ : Type} (host : Host σ) : σ → List Exchange → σ → Prop
  | nil (s : σ) : Replies host s [] s
  | cons {q : Query} {reply : Outcome q.Answer} {s s' s'' : σ} {later : List Exchange} :
      host.reply q s = (reply, s') → Replies host s' later s'' →
      Replies host s (⟨q, reply⟩ :: later) s''

namespace Host.Replies

variable {σ : Type} {host : Host σ}

theorem nil_iff {s s' : σ} : host.Replies s [] s' ↔ s' = s := by
  constructor
  · rintro ⟨⟩
    rfl
  · rintro rfl
    exact .nil s'

theorem cons_iff {s s'' : σ} {e : Exchange} {later : List Exchange} :
    host.Replies s (e :: later) s'' ↔
      (host.reply e.1 s).1 = e.2 ∧ host.Replies (host.reply e.1 s).2 later s'' := by
  constructor
  · intro h
    cases h with
    | cons hreply hlater =>
        rw [hreply]
        exact ⟨rfl, hlater⟩
  · rintro ⟨hreply, hlater⟩
    exact .cons (Prod.ext hreply rfl) hlater

theorem append_iff {s s'' : σ} {t u : List Exchange} :
    host.Replies s (t ++ u) s'' ↔ ∃ s', host.Replies s t s' ∧ host.Replies s' u s'' := by
  induction t generalizing s with
  | nil => simp [nil_iff]
  | cons e t ih =>
      rw [List.cons_append, cons_iff, ih]
      simp only [cons_iff]
      constructor
      · rintro ⟨hreply, s', ht, hu⟩
        exact ⟨s', ⟨hreply, ht⟩, hu⟩
      · rintro ⟨s', ⟨hreply, ht⟩, hu⟩
        exact ⟨hreply, s', ht, hu⟩

end Host.Replies

namespace Inquiry

variable {α β σ : Type}

/-- The transcripts that an inquiry can leave, each with the end that the inquiry then comes to. A
crash is the last thing in a transcript. -/
inductive Allows : Inquiry α → List Exchange → Outcome α → Prop
  | done (a : α) : Allows (done a) [] (.finished a)
  | note {r : Log.Record} {next : Inquiry α} {t : List Exchange} {o : Outcome α} :
      Allows next t o → Allows (note r next) t o
  | answered {q : Query} {next : q.Answer → Inquiry α} {answer : q.Answer} {t : List Exchange}
      {o : Outcome α} :
      Allows (next answer) t o → Allows (ask q next) (⟨q, .finished answer⟩ :: t) o
  | crashed {q : Query} {next : q.Answer → Inquiry α} (message : String) :
      Allows (ask q next) [⟨q, .crashed message⟩] (.crashed message)

/-! ## Reading a transcript off an inquiry -/

theorem allows_done_iff {a : α} {t : List Exchange} {o : Outcome α} :
    Allows (done a) t o ↔ t = [] ∧ o = .finished a := by
  constructor
  · rintro ⟨⟩
    exact ⟨rfl, rfl⟩
  · rintro ⟨rfl, rfl⟩
    exact .done a

theorem allows_pure_iff {a : α} {t : List Exchange} {o : Outcome α} :
    Allows (pure a) t o ↔ t = [] ∧ o = .finished a :=
  allows_done_iff

theorem allows_note_iff {r : Log.Record} {next : Inquiry α} {t : List Exchange} {o : Outcome α} :
    Allows (note r next) t o ↔ Allows next t o := by
  constructor
  · rintro ⟨⟩
    assumption
  · exact .note

theorem allows_log_bind_iff {level : Log.Level} {component : Log.Component} {message : String}
    {f : Unit → Inquiry α} {t : List Exchange} {o : Outcome α} :
    Allows (log level component message >>= f) t o ↔ Allows (f ()) t o :=
  allows_note_iff

theorem allows_ask_iff {q : Query} {next : q.Answer → Inquiry α} {t : List Exchange}
    {o : Outcome α} :
    Allows (ask q next) t o ↔
      (∃ answer u, t = ⟨q, .finished answer⟩ :: u ∧ Allows (next answer) u o) ∨
        ∃ message, t = [⟨q, .crashed message⟩] ∧ o = .crashed message := by
  constructor
  · intro h
    cases h with
    | answered hnext => exact .inl ⟨_, _, rfl, hnext⟩
    | crashed message => exact .inr ⟨message, rfl, rfl⟩
  · rintro (⟨answer, u, rfl, hnext⟩ | ⟨message, rfl, rfl⟩)
    · exact .answered hnext
    · exact .crashed message

theorem allows_question_iff {q : Query} {t : List Exchange} {o : Outcome q.Answer} :
    Allows (question q) t o ↔ t = [⟨q, o⟩] := by
  rw [question, allows_ask_iff]
  constructor
  · rintro (⟨answer, u, rfl, hdone⟩ | ⟨message, rfl, rfl⟩)
    · obtain ⟨rfl, rfl⟩ := allows_done_iff.1 hdone
      rfl
    · rfl
  · rintro rfl
    cases o with
    | finished answer => exact .inl ⟨answer, [], rfl, .done answer⟩
    | crashed message => exact .inr ⟨message, rfl, rfl⟩

/-- In sequence, the second inquiry adds its transcript where the first has ended; it has no part
in the transcript when the first crashed. -/
theorem allows_bind_iff {x : Inquiry α} {f : α → Inquiry β} {t : List Exchange} {o : Outcome β} :
    Allows (x >>= f) t o ↔
      (∃ a t₁ t₂, t = t₁ ++ t₂ ∧ Allows x t₁ (.finished a) ∧ Allows (f a) t₂ o) ∨
        ∃ message, Allows x t (.crashed message) ∧ o = .crashed message := by
  change Allows (x.bind f) t o ↔ _
  induction x generalizing t with
  | done a =>
      simp only [bind, allows_done_iff]
      constructor
      · intro h
        exact .inl ⟨a, [], t, rfl, ⟨rfl, rfl⟩, h⟩
      · rintro (⟨_, _, _, rfl, ⟨rfl, ⟨⟩⟩, h⟩ | ⟨_, ⟨_, ⟨⟩⟩, _⟩)
        exact h
  | note r next ih =>
      simp only [bind, allows_note_iff]
      exact ih
  | ask q next ih =>
      rw [bind, allows_ask_iff]
      constructor
      · rintro (⟨answer, u, rfl, h⟩ | ⟨message, rfl, rfl⟩)
        · rcases (ih answer).1 h with ⟨a, t₁, t₂, rfl, h₁, h₂⟩ | ⟨message, h₁, rfl⟩
          · exact .inl ⟨a, _, t₂, rfl, .answered h₁, h₂⟩
          · exact .inr ⟨message, .answered h₁, rfl⟩
        · exact .inr ⟨message, .crashed message, rfl⟩
      · rintro (⟨a, t₁, t₂, rfl, h₁, h₂⟩ | ⟨message, h₁, rfl⟩)
        · rcases allows_ask_iff.1 h₁ with ⟨answer, u, rfl, hu⟩ | ⟨_, _, ⟨⟩⟩
          exact .inl ⟨answer, u ++ t₂, rfl, (ih answer).2 (.inl ⟨a, u, t₂, rfl, hu, h₂⟩)⟩
        · rcases allows_ask_iff.1 h₁ with ⟨answer, u, rfl, hu⟩ | ⟨_, rfl, ⟨⟩⟩
          · exact .inl ⟨answer, u, rfl, (ih answer).2 (.inr ⟨message, hu, rfl⟩)⟩
          · exact .inr ⟨message, rfl, rfl⟩

theorem allows_question_bind_iff {q : Query} {f : q.Answer → Inquiry α} {t : List Exchange}
    {o : Outcome α} :
    Allows (question q >>= f) t o ↔
      (∃ answer u, t = ⟨q, .finished answer⟩ :: u ∧ Allows (f answer) u o) ∨
        ∃ message, t = [⟨q, .crashed message⟩] ∧ o = .crashed message :=
  allows_ask_iff

/-- Only the first inquiry shows in the transcript when the second asks nothing; the second makes
of the first one's result what `g` says. -/
theorem allows_bind_silent_iff {x : Inquiry α} {f : α → Inquiry β} {g : α → β}
    (hf : ∀ a t o, Allows (f a) t o ↔ t = [] ∧ o = .finished (g a)) {t : List Exchange}
    {o : Outcome β} :
    Allows (x >>= f) t o ↔ ∃ r, Allows x t r ∧ o = r.map g := by
  rw [allows_bind_iff]
  simp only [hf]
  constructor
  · rintro (⟨a, t₁, t₂, rfl, hx, rfl, rfl⟩ | ⟨message, hx, rfl⟩)
    · exact ⟨.finished a, by simpa using hx, rfl⟩
    · exact ⟨.crashed message, hx, rfl⟩
  · rintro ⟨r, hx, rfl⟩
    cases r with
    | finished a => exact .inl ⟨a, t, [], by simp, hx, rfl, rfl⟩
    | crashed message => exact .inr ⟨message, hx, rfl⟩

def Undisturbed (t : List Exchange) : Prop :=
  ∀ e ∈ t, ∃ answer, e.2 = .finished answer

theorem undisturbed_of_allows {x : Inquiry α} {t : List Exchange} {o : Outcome α} {a : α}
    (h : Allows x t o) (ho : o = .finished a) : Undisturbed t := by
  induction h with
  | done _ => exact fun _ he => absurd he List.not_mem_nil
  | note _ ih => exact ih ho
  | answered _ ih =>
      intro e he
      cases he with
      | head => exact ⟨_, rfl⟩
      | tail _ he => exact ih ho e he
  | crashed _ => cases ho

/-! ## Runs -/

namespace Run

@[simp] theorem outcome_after (e : Event) (r : Run σ α) : (r.after e).outcome = r.outcome := rfl

@[simp] theorem state_after (e : Event) (r : Run σ α) : (r.after e).state = r.state := rfl

@[simp] theorem questions_after_asked (q : Query) (reply : Outcome q.Answer) (r : Run σ α) :
    (r.after (.asked q reply)).questions = ⟨q, reply⟩ :: r.questions := rfl

@[simp] theorem questions_after_noted (record : Log.Record) (r : Run σ α) :
    (r.after (.noted record)).questions = r.questions := rfl

end Run

/-- What a run shows apart from the log: the transcript, how the run ended, the state it left. -/
structure Interview (σ α : Type) where
  transcript : List Exchange
  outcome : Outcome α
  state : σ

def Run.interview (r : Run σ α) : Interview σ α :=
  ⟨r.questions, r.outcome, r.state⟩

theorem replies_allows_run (host : Host σ) (x : Inquiry α) (s : σ) :
    host.Replies s (run host x s).questions (run host x s).state ∧
      Allows x (run host x s).questions (run host x s).outcome := by
  induction x generalizing s with
  | done a => exact ⟨.nil s, .done a⟩
  | note r next ih =>
      obtain ⟨hreplies, hallows⟩ := ih s
      exact ⟨hreplies, .note hallows⟩
  | ask q next ih =>
      rw [run]
      split
      next answer s' hreply =>
        obtain ⟨hreplies, hallows⟩ := ih answer s'
        exact ⟨.cons hreply hreplies, .answered hallows⟩
      next message s' hreply =>
        exact ⟨.cons hreply (.nil s'), .crashed message⟩

/-- Host and inquiry have no more than one transcript in common: the host fixes each reply, and the
replies fix the next question. -/
theorem interview_run_of_allows {host : Host σ} {x : Inquiry α} {s s' : σ} {t : List Exchange}
    {o : Outcome α} (hallows : Allows x t o) (hreplies : host.Replies s t s') :
    (run host x s).interview = ⟨t, o, s'⟩ := by
  induction hallows generalizing s with
  | done a =>
      rw [Host.Replies.nil_iff.1 hreplies]
      rfl
  | note _ ih => exact ih hreplies
  | @answered q next answer t o _ ih =>
      obtain ⟨hreply, hlater⟩ := Host.Replies.cons_iff.1 hreplies
      have hpair : host.reply q s = (.finished answer, (host.reply q s).2) :=
        Prod.ext hreply rfl
      have hrest := ih hlater
      simp only [Run.interview, Interview.mk.injEq] at hrest ⊢
      rw [run, hpair]
      simp [hrest]
  | @crashed q next message =>
      obtain ⟨hreply, hlater⟩ := Host.Replies.cons_iff.1 hreplies
      have hpair : host.reply q s = (.crashed message, s') :=
        Prod.ext hreply (Host.Replies.nil_iff.1 hlater).symm
      rw [run, hpair]
      rfl

theorem outcome_run_iff {host : Host σ} {x : Inquiry α} {s : σ} {o : Outcome α} :
    (run host x s).outcome = o ↔ ∃ t s', host.Replies s t s' ∧ Allows x t o := by
  constructor
  · rintro rfl
    exact ⟨_, _, replies_allows_run host x s⟩
  · rintro ⟨t, s', hreplies, hallows⟩
    exact congrArg Interview.outcome (interview_run_of_allows hallows hreplies)

/-- A run is the one transcript that the host and the inquiry agree on. -/
theorem interview_run_iff {host : Host σ} {x : Inquiry α} {s : σ} {v : Interview σ α} :
    (run host x s).interview = v ↔
      host.Replies s v.transcript v.state ∧ Allows x v.transcript v.outcome := by
  constructor
  · rintro rfl
    exact replies_allows_run host x s
  · rintro ⟨hreplies, hallows⟩
    exact interview_run_of_allows hallows hreplies

/-! ## Runs in sequence -/

def exchanges : List Event → List Exchange :=
  List.filterMap fun
    | .asked q reply => some ⟨q, reply⟩
    | .noted _ => none

def recordsIn : List Event → List Log.Record :=
  List.filterMap fun
    | .noted record => some record
    | .asked .. => none

@[simp] theorem exchanges_asked (q : Query) (reply : Outcome q.Answer) (es : List Event) :
    exchanges (.asked q reply :: es) = ⟨q, reply⟩ :: exchanges es := rfl

@[simp] theorem exchanges_noted (r : Log.Record) (es : List Event) :
    exchanges (.noted r :: es) = exchanges es := rfl

@[simp] theorem recordsIn_asked (q : Query) (reply : Outcome q.Answer) (es : List Event) :
    recordsIn (.asked q reply :: es) = recordsIn es := rfl

@[simp] theorem recordsIn_noted (r : Log.Record) (es : List Event) :
    recordsIn (.noted r :: es) = r :: recordsIn es := rfl

@[simp] theorem exchanges_append (es es' : List Event) :
    exchanges (es ++ es') = exchanges es ++ exchanges es' :=
  List.filterMap_append

@[simp] theorem recordsIn_append (es es' : List Event) :
    recordsIn (es ++ es') = recordsIn es ++ recordsIn es' :=
  List.filterMap_append

@[simp] theorem exchanges_map_noted (rs : List Log.Record) : exchanges (rs.map .noted) = [] := by
  induction rs with
  | nil => rfl
  | cons r rs ih => exact ih

@[simp] theorem recordsIn_map_noted (rs : List Log.Record) : recordsIn (rs.map .noted) = rs := by
  induction rs with
  | nil => rfl
  | cons r rs ih => exact congrArg (r :: ·) ih

theorem Run.questions_eq (r : Run σ α) : r.questions = exchanges r.events := rfl

theorem Run.records_eq (r : Run σ α) : r.records = recordsIn r.events := rfl

/-- Goes on where a run has ended, in the state that it left. A run that crashed goes no further. -/
def Run.andThen (r : Run σ α) (next : α → σ → Run σ β) : Run σ β :=
  match r.outcome with
  | .finished a => { next a r.state with events := r.events ++ (next a r.state).events }
  | .crashed message => ⟨.crashed message, r.state, r.events⟩

theorem Run.andThen_after (e : Event) (r : Run σ α) (next : α → σ → Run σ β) :
    (r.after e).andThen next = (r.andThen next).after e := by
  obtain ⟨outcome, state, events⟩ := r
  cases outcome with
  | finished a => rfl
  | crashed message => rfl

theorem run_bind (host : Host σ) (x : Inquiry α) (f : α → Inquiry β) (s : σ) :
    run host (x >>= f) s = (run host x s).andThen fun a => run host (f a) := by
  change run host (x.bind f) s = _
  induction x generalizing s with
  | done a => rfl
  | note r next ih => rw [bind, run, run, ih, Run.andThen_after]
  | ask q next ih =>
      rw [bind, run, run]
      rcases host.reply q s with ⟨reply, s'⟩
      cases reply with
      | finished answer =>
          change (run host ((next answer).bind f) s').after _ = _
          rw [ih, ← Run.andThen_after]
      | crashed message => rfl

theorem run_log_bind (host : Host σ) (level : Log.Level) (component : Log.Component)
    (message : String) (f : Unit → Inquiry α) (s : σ) :
    run host (log level component message >>= f) s =
      (run host (f ()) s).after (.noted ⟨level, component, message⟩) :=
  rfl

/-! ## Successive runs -/

/-- Runs inquiries one after another, each in the state that the one before left, also when that
one crashed. -/
def runEach (host : Host σ) : List (Inquiry α) → σ → List (Run σ α)
  | [], _ => []
  | x :: later, s =>
    let r := run host x s
    r :: runEach host later r.state

/-- Between earlier runs and later ones there is only the state, and the state is what the replies
to the earlier questions have made it. -/
theorem runEach_append (host : Host σ) (xs : List (Inquiry α)) (s : σ) :
    ∃ s', host.Replies s ((runEach host xs s).map Run.questions).flatten s' ∧
      ∀ ys, runEach host (xs ++ ys) s = runEach host xs s ++ runEach host ys s' := by
  induction xs generalizing s with
  | nil => exact ⟨s, .nil s, fun _ => rfl⟩
  | cons x xs ih =>
      obtain ⟨s', hreplies, happend⟩ := ih (run host x s).state
      refine ⟨s', ?_, fun ys => ?_⟩
      · rw [runEach, List.map_cons, List.flatten_cons]
        exact Host.Replies.append_iff.2 ⟨_, (replies_allows_run host x s).1, hreplies⟩
      · rw [List.cons_append, runEach, runEach, happend, List.cons_append]

inductive Session (host : Host σ) (P : List Exchange → Outcome α → Prop) :
    σ → List (Interview σ α) → Prop
  | nil (s : σ) : Session host P s []
  | cons {s : σ} {v : Interview σ α} {later : List (Interview σ α)} :
      host.Replies s v.transcript v.state → P v.transcript v.outcome →
      Session host P v.state later → Session host P s (v :: later)

theorem runEach_replicate_iff {host : Host σ} {x : Inquiry α}
    {P : List Exchange → Outcome α → Prop} (hP : ∀ t o, Allows x t o ↔ P t o) {n : Nat} {s : σ}
    {vs : List (Interview σ α)} :
    (runEach host (List.replicate n x) s).map Run.interview = vs ↔
      vs.length = n ∧ Session host P s vs := by
  induction n generalizing s vs with
  | zero =>
      constructor
      · rintro rfl
        exact ⟨rfl, .nil s⟩
      · rintro ⟨hlength, _⟩
        rw [List.length_eq_zero_iff.1 hlength]
        rfl
  | succ n ih =>
      rw [List.replicate_succ, runEach, List.map_cons]
      constructor
      · rintro rfl
        obtain ⟨hreplies, hallows⟩ := replies_allows_run host x s
        obtain ⟨hlength, hlater⟩ := ih.1 rfl
        exact ⟨congrArg (· + 1) hlength, .cons hreplies ((hP _ _).1 hallows) hlater⟩
      · rintro ⟨hlength, hsession⟩
        cases hsession with
        | nil => cases hlength
        | @cons _ v later hreplies hkind hlater =>
            have hv : (run host x s).interview = v :=
              interview_run_iff.2 ⟨hreplies, (hP _ _).2 hkind⟩
            have hstate : (run host x s).state = v.state := congrArg Interview.state hv
            rw [hv, hstate, ih.2 ⟨Nat.succ.inj hlength, hlater⟩]

end Inquiry

end ProcessIntegrity
