import CommandTelemetry.Action.Interceptor
import CommandTelemetry.Proofs.Classification
import CommandTelemetry.Proofs.Outcome
import CommandTelemetry.Proofs.SpanAttributes

/-!
# How an invocation leaves its span

The interceptor runs in three parts: it opens a span, runs the rest of the chain inside it, and
leaves it again. What happens on the way out depends on how the rest of the chain ended and on the
use that was recorded meanwhile, and on nothing else.

To mark a span with a classification always succeeds, since details always have normal forms, though
some may be dropped for want of room, and that is logged. The one thing that may go wrong is the
use: where it has no normal form, the span never ends, and a fault takes the place of how the
invocation ended. Everything proved about exits below therefore comes in two versions, and in both
of them the category of a failure stays what it was.
-/

namespace CommandTelemetry

open Trace Label Attribute

open Script (outcomeOf)

namespace Interceptor

variable {ε : Type}

/-! ## Into the span -/

/-- The span that an invocation opens, and the session after it. -/
def start (options : CommandOptions) (ctx : Option Context) (s : Session ε) : Span × Session ε :=
  s.startSpan Scope.cli.name s.loaded.instrumentation.scopeVersion (spanName options.path) ctx

def noted (s : Session ε) (traceId : String) : Session ε :=
  { s with
    lastTraceId := some traceId
    records := s.records ++ [⟨.debug, logger, s!"TraceID: {traceId}"⟩] }

/-- The span of an invocation as what runs inside finds it. -/
def spanOf (options : CommandOptions) (ctx : Option Context) (s : Session ε) : Span :=
  describe (start options ctx s).1 options

def contextInside (options : CommandOptions) (ctx : Option Context) (s : Session ε) : Context :=
  innerContext (s.contextOr ctx) (start options ctx s).1 (spanName options.path) options.isChild

def inside (options : CommandOptions) (ctx : Option Context) (s : Session ε) : Session ε :=
  (noted (start options ctx s).2 (start options ctx s).1.context.traceText).withCurrent
    (contextInside options ctx s)

/-- What is left to do once the rest of the chain has ended. -/
def leave (usage : Session ε → Usage) (domains : List Domain) (settings : Attribute.Settings)
    (span : Span) (outcome : Except Failure Answer) : Effect (Session ε) Answer := do
  let (outcome, span) ← settle domains settings span outcome
  close usage settings span outcome

@[simp] theorem start_current (options : CommandOptions) (ctx : Option Context) (s : Session ε) :
    (start options ctx s).2.current = s.current := by
  unfold start Session.startSpan
  cases s.provider.filter (!·.isDisabled) <;> rfl

/-- A span starts with its name and without a status, whether or not it records. -/
theorem start_name_status (options : CommandOptions) (ctx : Option Context) (s : Session ε) :
    (start options ctx s).1.name = spanName options.path ∧
      (start options ctx s).1.status = .unset := by
  unfold start Session.startSpan
  cases s.provider.filter (!·.isDisabled) with
  | none => exact ⟨rfl, rfl⟩
  | some p =>
      simp only []
      obtain ⟨attrs, h⟩ := Span.setAttributes_eq _ (s.startAttributes (s.contextOr ctx))
      rw [h]
      exact ⟨rfl, rfl⟩

/-- What the interceptor says about an invocation. -/
def described (options : CommandOptions) : Attributes :=
  (match options.flags with
    | some flags =>
      [(AttributeName.cmdFlags.key, Value.list (flags.changedNames.map .text))]
    | none => []) ++
    [(AttributeName.cmdArgsCount.key, .int options.wordCount)]

/-- Names of flags are texts, which a span takes. -/
theorem isRefused_described {options : CommandOptions} {w : String × Value}
    (h : w ∈ described options) : isRefused w.2 = false := by
  unfold described at h
  rcases List.mem_append.1 h with h | h
  · cases hflags : options.flags with
    | none =>
        rw [hflags] at h
        cases h
    | some flags =>
        rw [hflags] at h
        rw [List.mem_singleton.1 h]
        refine List.any_eq_false.2 fun v hv => ?_
        obtain ⟨name, -, rfl⟩ := List.mem_map.1 hv
        exact Bool.false_ne_true
  · rw [List.mem_singleton.1 h]
    rfl

/-- A span starts with texts only. -/
theorem isRefused_startAttributes {s : Session ε} {ctx : Context} {w : String × Value}
    (h : w ∈ s.startAttributes ctx) : isRefused w.2 = false := by
  unfold Session.startAttributes at h
  rcases List.mem_append.1 h with h | h
  · obtain ⟨e, -, rfl⟩ := List.mem_map.1 h
    rfl
  · split at h
    · cases h
    · cases h
    · rw [List.mem_singleton.1 h]
      rfl

theorem describe_eq (span : Span) (options : CommandOptions) :
    describe span options = span.setAttributes (described options) := by
  unfold describe described
  cases options.flags <;> rfl

theorem spanOf_eq (options : CommandOptions) (ctx : Option Context) (s : Session ε) :
    ∃ attrs, spanOf options ctx s = { (start options ctx s).1 with attributes := attrs } := by
  rw [spanOf, describe_eq]
  exact Span.setAttributes_eq _ _

theorem isRecording_start {options : CommandOptions} {ctx : Option Context} {s : Session ε}
    (h : (spanOf options ctx s).isRecording = true) :
    (start options ctx s).1.isRecording = true := by
  obtain ⟨attrs, hattrs⟩ := spanOf_eq options ctx s
  rw [hattrs] at h
  exact h

theorem spanOf_name_status (options : CommandOptions) (ctx : Option Context) (s : Session ε) :
    (spanOf options ctx s).name = spanName options.path ∧
      (spanOf options ctx s).status = .unset := by
  obtain ⟨attrs, h⟩ := spanOf_eq options ctx s
  rw [h]
  exact start_name_status options ctx s

theorem outcomeOf_announce (traceId : String) (s : Session ε) :
    outcomeOf (announce traceId) s = (.ok (), noted s traceId) := rfl

/-- The rest of the chain runs inside the span, and the invocation leaves it however that ends. -/
theorem outcomeOf_run (usage : Session ε → Usage) (domains : List Domain)
    (settings : Attribute.Settings) (options : CommandOptions) (ctx : Option Context)
    (next : Action (Session ε)) (s : Session ε) :
    outcomeOf (run usage domains settings options ctx next) s =
      let r := outcomeOf (next (some (contextInside options ctx s))) (inside options ctx s)
      outcomeOf (leave usage domains settings (spanOf options ctx s) r.1)
        (r.2.withCurrent s.current) := by
  have hcurrent : (noted (start options ctx s).2
      (start options ctx s).1.context.traceText).current = s.current := start_current options ctx s
  unfold run
  rw [outcomeOf_bind_ok (outcomeOf_openSpan ..), outcomeOf_bind_ok (outcomeOf_announce ..),
    outcomeOf_bind_ok (outcomeOf_get _), outcomeOf_bind_ok (outcomeOf_attempt ..),
    outcomeOf_within, ← start, hcurrent]
  rw [Session.contextOr, hcurrent]
  rfl

/-! ## Out of the span -/

def marked (settings : Attribute.Settings) (span : Span) (c : Failure.Classification) : Span :=
  (span.setAttributes (c.shown settings).value).setError c.code

/-- To classify a failure onto a span never fails. -/
theorem mark_classify (settings : Attribute.Settings) (span : Span) (domains : List Domain)
    (f : Failure) :
    mark settings span (f.classify domains) =
      .ok ⟨marked settings span (f.classify domains),
        ((f.classify domains).shown settings).records⟩ := by
  unfold mark
  split
  · next h =>
      have hnone : (f.classify domains).shown settings = pure [] := by
        rw [Failure.Classification.shown, Failure.Classification.attributes, List.isEmpty_iff.1 h]
        rfl
      rw [marked, hnone]
      rfl
  · have hrecord := Failure.normalize_attributes settings domains f
    rw [facts] at hrecord
    rw [Span.record, hrecord]
    rfl

/-- The span of an invocation once it is known how the rest of the chain ended. -/
def settledSpan (domains : List Domain) (settings : Attribute.Settings) (span : Span) :
    Except Failure Answer → Span
  | .ok _ => span
  | .error f => if f.isOrdinary then marked settings span (f.classify domains) else span

/-- What is written on the span about how the rest of the chain ended, and what is logged of it. -/
def told (domains : List Domain) (settings : Attribute.Settings) :
    Except Failure Answer → Logged Attributes
  | .ok _ => pure []
  | .error f => if f.isOrdinary then (f.classify domains).shown settings else pure []

def writesOf (domains : List Domain) (settings : Attribute.Settings)
    (outcome : Except Failure Answer) : Attributes := (told domains settings outcome).value

/-- What is written about an outcome are details of a failure, if it is one. -/
theorem exists_of_mem_writesOf {domains : List Domain} {settings : Attribute.Settings}
    {outcome : Except Failure Answer} {k : String}
    (h : k ∈ (writesOf domains settings outcome).map Prod.fst) :
    ∃ f : Failure, k ∈ (f.classify domains).attributes.map Prod.fst := by
  unfold writesOf told at h
  cases outcome with
  | ok a => cases h
  | error f =>
      simp only [] at h
      split at h
      · exact ⟨f, Failure.mem_attributes_of_mem_shown h⟩
      · cases h

theorem length_writesOf_le (domains : List Domain) (settings : Attribute.Settings)
    (outcome : Except Failure Answer) : (writesOf domains settings outcome).length ≤ 5 := by
  unfold writesOf told
  cases outcome with
  | ok a => exact Nat.zero_le 5
  | error f =>
      simp only []
      split
      · exact Failure.length_shown_le settings domains f
      · exact Nat.zero_le 5

/-- The session once it is known how the rest of the chain ended. -/
def settled (domains : List Domain) (settings : Attribute.Settings) (s : Session ε)
    (outcome : Except Failure Answer) : Session ε := s.log (told domains settings outcome).records

/-- Nothing is told of an invocation that answers. -/
theorem settled_ok (domains : List Domain) (settings : Attribute.Settings) (s : Session ε)
    (a : Answer) : settled domains settings s (.ok a) = s := Session.log_nil s

/-- In the usual settings nothing is dropped and nothing is logged. -/
theorem told_usual (domains : List Domain) (outcome : Except Failure Answer) :
    told domains usualSettings outcome =
      match outcome with
      | .ok _ => pure []
      | .error f => pure (if f.isOrdinary then (f.classify domains).attributes else []) := by
  unfold told
  cases outcome with
  | ok a => rfl
  | error f =>
      simp only []
      split
      · exact Failure.shown_usual domains f
      · rfl

theorem settled_usual (domains : List Domain) (s : Session ε) (outcome : Except Failure Answer) :
    settled domains usualSettings s outcome = s := by
  unfold settled
  rw [told_usual]
  cases outcome <;> exact Session.log_nil s

/-- The status that an outcome gives to the span: a failure counts if it is an ordinary one. -/
def statusOf (domains : List Domain) : Except Failure Answer → Status
  | .ok _ => .unset
  | .error f => if f.isOrdinary then .error (f.classify domains).code else .unset

/-- The span as it is in the end. One that does not record stays as it was. -/
theorem settledSpan_eq (domains : List Domain) (settings : Attribute.Settings) {span : Span}
    (hstatus : span.status = .unset) (outcome : Except Failure Answer) (writes : Attributes) :
    (settledSpan domains settings span outcome).setAttributes writes =
      if span.isRecording then
        { span with
          attributes :=
            Span.storeAll span.limits span.attributes (writesOf domains settings outcome ++ writes)
          status := statusOf domains outcome }
      else span := by
  cases h : span.isRecording with
  | false =>
      have hsettled : settledSpan domains settings span outcome = span := by
        unfold settledSpan marked
        cases outcome with
        | ok a => rfl
        | error f =>
            simp only [Span.setAttributes_of_not_recording h, Span.setError_of_not_recording h,
              ite_self]
      rw [hsettled, Span.setAttributes_of_not_recording h, if_neg Bool.false_ne_true]
  | true =>
      have hnone : (pure [] : Logged Attributes).value = [] := rfl
      rw [if_pos rfl]
      unfold settledSpan writesOf told statusOf
      cases outcome with
      | ok a =>
          rw [Span.setAttributes_of_recording h, hnone, List.nil_append, ← hstatus, ← h]
      | error f =>
          have hnext : ∀ attrs status,
              ({ span with attributes := attrs, status := status } : Span).isRecording = true :=
            fun _ _ => h
          simp only []
          by_cases hf : f.isOrdinary = true
          · rw [if_pos hf, if_pos hf, if_pos hf, marked, Span.setAttributes_of_recording h,
              Span.setError_of_recording (hnext _ _),
              Span.setAttributes_of_recording (hnext _ _), ← Span.storeAll_append, ← h]
          · rw [if_neg hf, if_neg hf, if_neg hf, Span.setAttributes_of_recording h,
              hnone, List.nil_append, ← hstatus, ← h]

/-- How an invocation ends if nothing goes wrong on the way out. -/
def ending (span : Span) : Except Failure Answer → Except Failure Answer
  | .ok a => (stamp span.context.traceText a).mapError Failure.ofFault
  | .error f => .error f

/-- The stamp of a trace is not rendered, and nothing is rendered as an empty result. -/
theorem stamp_of_no_value {a : Answer} (h : ∀ v, a ≠ .value v) (traceText : String) :
    ∃ r, stamp traceText a = .ok (.result r) ∧ (Answer.result r).render = a.render := by
  cases a with
  | nothing => exact ⟨_, rfl, rfl⟩
  | result r => exact ⟨_, rfl, rfl⟩
  | value v => exact absurd rfl (h v)

theorem outcomeOf_settle (domains : List Domain) (settings : Attribute.Settings) (span : Span)
    (outcome : Except Failure Answer) (s : Session ε) :
    outcomeOf (settle domains settings span outcome) s =
      (.ok (ending span outcome, settledSpan domains settings span outcome),
       settled domains settings s outcome) := by
  cases outcome with
  | ok a => exact congrArg (fun s' : Session ε => (_, s')) (Session.log_nil s).symm
  | error f =>
      have hfailure : outcomeOf (settleFailure domains settings span f) s =
          (.ok (f, settledSpan domains settings span (.error f)),
           settled domains settings s (.error f)) := by
        unfold settleFailure settledSpan settled told
        by_cases ho : f.isOrdinary = true
        · rw [if_pos ho, mark_classify]
          simp only [if_pos ho]
          rw [outcomeOf_bind_ok (outcomeOf_take ..), outcomeOf_pure]
        · simp only [if_neg ho]
          exact congrArg (fun s' : Session ε => (_, s')) (Session.log_nil s).symm
      unfold settle
      rw [outcomeOf_bind_ok hfailure]
      rfl

section Exits

variable {usage : Session ε → Usage} {s : Session ε} (domains : List Domain)
  {settings : Attribute.Settings} (span : Span) (outcome : Except Failure Answer)

/-- Where the use has a normal form, the span ends with it. -/
theorem outcomeOf_leave_ok {used : Logged Attributes}
    (h : normalize settings (usage (settled domains settings s outcome)) = .ok used) :
    outcomeOf (leave usage domains settings span outcome) s =
      (ending span outcome,
       ((settled domains settings s outcome).log used.records).endSpan
        ((settledSpan domains settings span outcome).setAttributes used.value)) := by
  unfold leave
  rw [outcomeOf_bind_ok (outcomeOf_settle ..)]
  unfold close
  rw [outcomeOf_bind_ok (outcomeOf_get _), Span.record, h]
  change outcomeOf (Session.take _ >>= _) _ = _
  rw [outcomeOf_bind_ok (outcomeOf_take ..), outcomeOf_bind_ok (outcomeOf_closeSpan ..),
    outcomeOf_conclude]
  rfl

/-- Where it has none, the span does not end. -/
theorem outcomeOf_leave_error {g : Fault}
    (h : normalize settings (usage (settled domains settings s outcome)) = .error g) :
    outcomeOf (leave usage domains settings span outcome) s =
      (.error (closingFailure (ending span outcome) g), settled domains settings s outcome) := by
  unfold leave
  rw [outcomeOf_bind_ok (outcomeOf_settle ..)]
  unfold close
  rw [outcomeOf_bind_ok (outcomeOf_get _), Span.record, h]
  rfl

end Exits

/-! ## The interceptor as a chain -/

/-- A chain of the interceptor alone answers as the interceptor does, but never with nothing. -/
theorem outcomeOf_chain (domains : List Domain) (settings : Attribute.Settings)
    (usage : Session ε → Usage) (ctx : Option Context) (options : CommandOptions)
    (act : Action (Session ε)) (s : Session ε) :
    outcomeOf (Action.run [factory usage domains settings] ctx options act) s =
      let r := outcomeOf (run usage domains settings options ctx act) s
      (r.1.map Action.resultOf, r.2) := by
  have hchain : outcomeOf ([factory usage domains settings].mapM (· options)) s =
      (.ok [run usage domains settings options], s) := rfl
  have hwrap : Action.wrap [run usage domains settings options] act ctx =
      run usage domains settings options ctx act := rfl
  unfold Action.run
  rw [outcomeOf_bind_ok hchain, outcomeOf_bind, hwrap]
  rcases outcomeOf (run usage domains settings options ctx act) s with ⟨a | a, s'⟩ <;> rfl

end Interceptor

end CommandTelemetry
