import CommandTelemetry.Action.Chain
import CommandTelemetry.Label.Command

/-!
# The interceptor

The middleware that gives every invocation a span. The span is named after the command, carries the
flags that were set and the number of words, and is opened in the context that the invocation is
given. What runs inside sees it as the active span and, unless the invocation is a child, finds the
name of the command in its baggage.

A failure is classified onto the span and goes on unchanged. When the invocation is over, what
subsystems recorded about their use is written on the span, and the span ends. The result is stamped
with the trace identifier.
-/

namespace CommandTelemetry

open Trace Label

namespace Interceptor

variable {ε : Type}

def logger : String := "cli.telemetry"

/-- The context of what runs inside a span. -/
def innerContext (ctx : Context) (span : Span) (name : String) (isChild : Bool) : Context :=
  let inner := ctx.withActive span.context
  if isChild then inner
  else inner.withBaggage [(AttributeName.cmdEntry.key, name)]

def describe (span : Span) (options : CommandOptions) : Span :=
  let span := match options.flags with
    | some flags =>
      span.setAttribute AttributeName.cmdFlags.key (.list (flags.changedNames.map .text))
    | none => span
  span.setAttribute AttributeName.cmdArgsCount.key (.int options.wordCount)

def mark (settings : Attribute.Settings) (span : Span) (c : Failure.Classification) :
    Except Fault (Logged Span) :=
  let recorded :=
    if c.details.isEmpty then .ok (pure span)
    else span.record settings (c.attributes.map fun e => (.text e.1, e.2))
  recorded.map fun l => l.map (·.setError c.code)

/-- What becomes of a failure that leaves the invocation, together with its span. Only an ordinary
one is classified. -/
def settleFailure (domains : List Domain) (settings : Attribute.Settings) (span : Span)
    (f : Failure) : Effect (Session ε) (Failure × Span) :=
  if f.isOrdinary then
    match mark settings span (f.classify domains) with
    | .ok l => do
      let span ← Session.take l
      pure (f, span)
    | .error g => pure (f.during (Failure.Node.ofFault g), span)
  else pure (f, span)

def stamp (traceId : String) : Answer → Except Fault Answer
  | .nothing => .ok (.result (({} : ActionResult).withTraceId traceId))
  | .result r => .ok (.result (r.withTraceId traceId))
  | .value v => .error (.notAResult v.typeName)

/-- What a span's failure to close leaves behind: it takes the place of how the invocation ended. -/
def closingFailure (outcome : Except Failure Answer) (g : Fault) : Failure :=
  match outcome with
  | .ok _ => Failure.ofFault g
  | .error f => f.during (Failure.Node.ofFault g)

/-- Writes the recorded use on the span, ends it, and ends as the invocation did. -/
def close (usage : Session ε → Usage) (settings : Attribute.Settings) (span : Span)
    (outcome : Except Failure Answer) : Effect (Session ε) Answer := do
  match span.record settings (usage (← get)) with
  | .ok l =>
    Session.closeSpan (← Session.take l)
    Effect.conclude outcome
  | .error g => throw (closingFailure outcome g)

/-- How the invocation ends, and its span, once the rest of the chain has ended. -/
def settle (domains : List Domain) (settings : Attribute.Settings) (span : Span) :
    Except Failure Answer → Effect (Session ε) (Except Failure Answer × Span)
  | .ok a => pure ((stamp span.context.traceText a).mapError Failure.ofFault, span)
  | .error f => do
    let (f, span) ← settleFailure domains settings span f
    pure (.error f, span)

def announce (traceId : String) : Effect (Session ε) Unit := do
  modify fun s => { s with lastTraceId := some traceId }
  Session.take ⟨(), [⟨.debug, logger, s!"TraceID: {traceId}"⟩]⟩

/-- The interceptor of an invocation; `usage` says what was recorded about use, and `settings` how
attributes are normalized. -/
def run (usage : Session ε → Usage) (domains : List Domain) (settings : Attribute.Settings)
    (options : CommandOptions) : Middleware (Session ε) := fun ctx next => do
  let name := spanName options.path
  let span ← Session.openSpan .cli name ctx
  announce span.context.traceText
  let outer := (← get).contextOr ctx
  let inner := innerContext outer span name options.isChild
  let outcome ← Effect.attempt (Session.within inner (next (some inner)))
  let (outcome, span) ← settle domains settings (describe span options) outcome
  close usage settings span outcome

def factory (usage : Session ε → Usage := (·.usage)) (domains : List Domain := wellKnownDomains)
    (settings : Attribute.Settings := Attribute.usualSettings) : Factory (Session ε) :=
  fun options => pure (run usage domains settings options)

end Interceptor

end CommandTelemetry
