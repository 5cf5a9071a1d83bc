import CommandTelemetry.Script.Run

/-!
# How steps end

An effect goes on with a session whether it returns or fails, so a run of one is a pair: how it
ended, and the session after it. `outcomeOf` is that pair, and the laws below say what each way of
putting steps together does to it. Proofs about commands and interceptors read outcomes through
these laws and never open the monad.

A session is a large record, and of a step that runs in another context one wants to see that
context only. Hence `withCurrent`, which keeps such sessions folded.
-/

namespace CommandTelemetry

open Trace

open Script (outcomeOf)

/-- A provider that samples and keeps everything. -/
def Trace.Provider.recording : Provider where
  serviceName := "cli"
  serviceVersion := none
  bound := Provider.halves
  limits := ⟨some Limits.usualCount, none⟩
  isDisabled := false
  exporter := .memory

namespace Session

variable {ε : Type}

/-- The session with another context as the current one. -/
def withCurrent (s : Session ε) (ctx : Context) : Session ε := { s with current := ctx }

/-- Logging nothing changes nothing. -/
@[simp] theorem log_nil (s : Session ε) : s.log [] = s := by
  simp [log]

theorem log_log (s : Session ε) (records more : List Log.Record) :
    (s.log records).log more = s.log (records ++ more) := by
  simp [log, List.append_assoc]

/-- The session under the name of a run, if one is given. -/
def named (s : Session ε) : Option String → Session ε
  | none => s
  | some id => { s with runId := some id }

/-- The session with the name of the run given back as it was in `before`, if one was given. -/
def unnamed (s before : Session ε) : Option String → Session ε
  | none => s
  | some _ => { s with runId := before.runId }

/-- The provider keeps the spans that end. -/
def keeps (s : Session ε) : Bool :=
  s.provider.any fun p => p.exporter = .memory && !p.isClosed

@[simp] theorem finished_unnamed (s before : Session ε) (id : Option String) :
    (s.unnamed before id).finished = s.finished := by
  cases id <;> rfl

/-- A span is kept at its end if it records and there is a memory. -/
theorem finished_endSpan (s : Session ε) (span : Span) :
    (s.endSpan span).finished =
      s.finished ++ if span.isRecording && s.keeps then [span] else [] := by
  unfold finished endSpan keeps
  cases s.provider with
  | none => cases span.isRecording <;> rfl
  | some p =>
      simp only [Option.map_some, Option.any_some, Provider.finish]
      by_cases h : span.isRecording = true ∧ p.exporter = .memory ∧ ¬p.isClosed = true
      · rw [if_pos h, if_pos (by simp [h])]
      · rw [if_neg h, if_neg (by simpa [and_assoc] using h), List.append_nil]

theorem keeps_endSpan (s : Session ε) (span : Span) : (s.endSpan span).keeps = s.keeps := by
  unfold keeps endSpan
  cases s.provider with
  | none => rfl
  | some p =>
      rw [Option.map_some, Option.any_some, Option.any_some, Provider.finish]
      split <;> rfl

/-- A session with that provider. -/
def recording : Session Unit where
  package := { language := "3.12", toolkit := none }
  provider := some Provider.recording
  own := ()

end Session

section Steps

variable {σ α β : Type}

@[simp] theorem outcomeOf_pure (a : α) (s : σ) :
    outcomeOf (pure a : Effect σ α) s = (.ok a, s) := rfl

@[simp] theorem outcomeOf_get (s : σ) : outcomeOf (get : Effect σ σ) s = (.ok s, s) := rfl

@[simp] theorem outcomeOf_modify (g : σ → σ) (s : σ) :
    outcomeOf (modify g : Effect σ Unit) s = (.ok (), g s) := rfl

/-- The second of two steps runs only where the first one returns. -/
theorem outcomeOf_bind (e : Effect σ α) (k : α → Effect σ β) (s : σ) :
    outcomeOf (e >>= k) s = match outcomeOf e s with
      | (.ok a, s) => outcomeOf (k a) s
      | (.error f, s) => (.error f, s) := by
  have hbind : (e >>= k) s = EStateM.bind e k s := rfl
  unfold outcomeOf
  rw [hbind, EStateM.bind]
  cases e s <;> rfl

theorem outcomeOf_bind_ok {e : Effect σ α} {k : α → Effect σ β} {s s' : σ} {a : α}
    (h : outcomeOf e s = (.ok a, s')) : outcomeOf (e >>= k) s = outcomeOf (k a) s' := by
  rw [outcomeOf_bind, h]

/-- A step whose end is looked at never fails. -/
@[simp] theorem outcomeOf_attempt (e : Effect σ α) (s : σ) :
    outcomeOf (Effect.attempt e) s = (.ok (outcomeOf e s).1, (outcomeOf e s).2) := by
  unfold outcomeOf Effect.attempt
  cases e s <;> rfl

@[simp] theorem outcomeOf_conclude (o : Except Failure α) (s : σ) :
    outcomeOf (Effect.conclude o) s = (o, s) := by
  cases o <;> rfl

end Steps

section Sessions

variable {ε α : Type}

@[simp] theorem outcomeOf_take (x : Logged α) (s : Session ε) :
    outcomeOf (Session.take x) s = (.ok x.value, s.log x.records) := rfl

@[simp] theorem outcomeOf_closeSpan (span : Span) (s : Session ε) :
    outcomeOf (Session.closeSpan span) s = (.ok (), s.endSpan span) := rfl

@[simp] theorem outcomeOf_openSpan (scope : Scope) (name : String) (ctx : Option Context)
    (s : Session ε) :
    outcomeOf (Session.openSpan scope name ctx) s =
      (.ok (s.startSpan scope.name s.loaded.instrumentation.scopeVersion name ctx).1,
       (s.startSpan scope.name s.loaded.instrumentation.scopeVersion name ctx).2) := rfl

/-- A step in another context leaves the current one as it was, however it ends. -/
@[simp] theorem outcomeOf_within (ctx : Context) (e : Effect (Session ε) α) (s : Session ε) :
    outcomeOf (Session.within ctx e) s =
      ((outcomeOf e (s.withCurrent ctx)).1,
       (outcomeOf e (s.withCurrent ctx)).2.withCurrent s.current) := by
  unfold outcomeOf Session.within Session.withCurrent
  cases e { s with current := ctx } <;> rfl

/-- The name of a run is given back, however the step ends. -/
theorem outcomeOf_withRunId (id : Option String) (e : Effect (Session ε) α) (s : Session ε) :
    outcomeOf (Session.withRunId id e) s =
      ((outcomeOf e (s.named id)).1, (outcomeOf e (s.named id)).2.unnamed s id) := by
  cases id with
  | none => rfl
  | some id =>
      unfold outcomeOf Session.withRunId Session.named
      simp only []
      cases e { s with runId := some id } <;> rfl

end Sessions

end CommandTelemetry
