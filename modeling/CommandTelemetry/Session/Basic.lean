import CommandTelemetry.Failure.Classification
import CommandTelemetry.Log.Root
import CommandTelemetry.Session.Usage
import CommandTelemetry.Setting.Package
import CommandTelemetry.Trace.Provider

/-!
# Sessions

The state of one run of the program, as far as commands and telemetry share it: the current context,
the run and the last trace, what subsystems recorded about their use, the provider of spans, and
what was logged and printed. A caller may keep state of its own beside it.

An effect is a function on sessions that returns a value or ends in a failure. The session goes on
either way.
-/

namespace CommandTelemetry

open Trace

/-- How a started tool ends. -/
inductive ToolRun where
  | exited (status : Int)
  | notFound
  | notPermitted
  deriving DecidableEq, Repr

/-- The host, as far as commands that start tools can see it. -/
structure Host where
  /-- The path of a tool, if it is installed. -/
  locate : String → Option String := fun _ => none
  run : String → ToolRun := fun _ => .notFound
  /-- The readings of the clock that are still to come, in seconds. -/
  clock : List Float := []

/-- A tool that was started. -/
structure Start where
  command : List String
  directory : Option String
  deriving DecidableEq, Repr

/-- What is read off the environment once, when the program is loaded. It stays as it is, whatever
becomes of the environment. -/
structure Loaded where
  instrumentation : Instrumentation := usualInstrumentation
  /-- How attributes are normalized where nothing else is said. -/
  attributes : Attribute.Settings := Attribute.usualSettings
  deriving Repr

/-- What a program loads whose package has this version. -/
def Loaded.ofEnvironment (env : Environment) (installed : Option String) : Logged Loaded := do
  let attributes ← Attribute.Settings.ofEnvironment env
  pure { instrumentation := Instrumentation.ofEnvironment env installed, attributes }

structure Session (ε : Type) where
  environment : Environment := []
  loaded : Loaded := {}
  host : Host := {}
  package : Package
  current : Context := {}
  runId : Option String := none
  lastTraceId : Option String := none
  ids : Ids := {}
  /-- The provider that spans are opened through. -/
  provider : Option Provider := none
  /-- The provider that was installed, as it was built. -/
  installed : Option Provider := none
  /-- What hands contexts on, where that is not left to the host. -/
  propagators : Option (List Propagator) := none
  /-- What subsystems recorded about their use. -/
  usage : Usage := []
  records : List Log.Record := []
  printed : String := ""
  /-- The lines that were printed to the error output. -/
  diagnostics : List String := []
  starts : List Start := []
  logging : Log.Root := {}
  own : ε

/-- A step that returns a value or ends in a failure. -/
abbrev Effect (σ α : Type) := EStateM Failure σ α

namespace Effect

variable {σ α β : Type}

/-- Ends in a fault of the library. -/
def fault (f : Fault) : Effect σ α := throw (Failure.ofFault f)

def ofExcept : Except Fault α → Effect σ α
  | .ok a => pure a
  | .error f => fault f

/-- Runs a step and says how it ended. -/
def attempt (e : Effect σ α) : Effect σ (Except Failure α) := fun s =>
  match e s with
  | .ok a s => .ok (.ok a) s
  | .error f s => .ok (.error f) s

/-- Ends as an earlier step did. -/
def conclude : Except Failure α → Effect σ α
  | .ok a => pure a
  | .error f => throw f

end Effect

namespace Session

variable {ε : Type}

def log (s : Session ε) (records : List Log.Record) : Session ε :=
  { s with records := s.records ++ records }

def print (s : Session ε) (line : String) : Session ε :=
  { s with printed := s.printed ++ line ++ "\n" }

/-- The value of a step that logs. -/
def take {α : Type} (x : Logged α) : Effect (Session ε) α := fun s => .ok x.value (s.log x.records)

/-- The context that a step names, or else the current one. -/
def contextOr (s : Session ε) (ctx : Option Context) : Context := ctx.getD s.current

/-- The context that a step names, or else the current one, with further baggage. -/
def contextWithBaggage (s : Session ε) (ctx : Option Context) (entries : List (String × String)) :
    Context :=
  (s.contextOr ctx).withBaggage entries

/-- The baggage of the context that a step names, or else of the current one. -/
def baggageOf (s : Session ε) (ctx : Option Context) : Attribute.Attributes :=
  (s.contextOr ctx).baggageAttributes

/-- Puts baggage, of which the texts count, into the context that a step names, or else into the
current one. That is a context of its own: it is for the step to pass it on. -/
def setBaggage (ctx : Option Context) (entries : List (Value × Value)) :
    Effect (Session ε) Context := do
  let texts ← Effect.ofExcept (Context.texts entries)
  return (← get).contextWithBaggage ctx texts

/-- The attributes that every recording span starts with: the baggage of the context that it is
opened in, and the run, unless that has no name. -/
def startAttributes (s : Session ε) (ctx : Context) : Attribute.Attributes :=
  ctx.baggageAttributes ++
    match s.runId with
    | none | some "" => []
    | some id => [(AttributeName.runId.key, .text id)]

/-- A span that has the identity of the one above it and does not record. -/
def inertSpan (parent : SpanContext) (name scope scopeVersion : String) : Span where
  context := parent
  parent := none
  name
  scope
  scopeVersion
  limits := ⟨none, none⟩
  isRecording := false

/-- Opens a span in a context. Identifiers are used up also by spans that are not sampled. -/
def startSpan (s : Session ε) (scope scopeVersion name : String) (ctx : Option Context) :
    Span × Session ε :=
  let ctx := s.contextOr ctx
  match s.provider.filter (!·.isDisabled) with
  | none => (inertSpan ctx.active name scope scopeVersion, s)
  | some p =>
    let parent := ctx.active
    let (traceId, ids) := if parent.isValid then (parent.traceId, s.ids) else s.ids.nextTrace
    let sampled := p.samples parent traceId
    let (spanId, ids) := ids.nextSpan
    let span : Span :=
      { context := ⟨traceId, spanId, sampled⟩
        parent := if parent.isValid then some parent.spanId else none
        name
        scope
        scopeVersion
        limits := p.limits
        isRecording := sampled }
    (span.setAttributes (s.startAttributes ctx), { s with ids })

def endSpan (s : Session ε) (span : Span) : Session ε :=
  { s with provider := s.provider.map (·.finish span) }

def finished (s : Session ε) : List Span :=
  match s.provider with
  | some p => p.finished
  | none => []

/-- Opens a span of one of the program's scopes. -/
def openSpan (scope : Scope) (name : String) (ctx : Option Context) : Effect (Session ε) Span :=
  fun s =>
    let (span, s) := s.startSpan scope.name s.loaded.instrumentation.scopeVersion name ctx
    .ok span s

def closeSpan (span : Span) : Effect (Session ε) Unit := fun s => .ok () (s.endSpan span)

/-- Writes attributes on a span in their normal forms. -/
def recordOn (span : Span) (entries : List (Value × Value)) : Effect (Session ε) Span := do
  take (← Effect.ofExcept (span.record (← get).loaded.attributes entries))

/-- Runs a step with another context as the current one. -/
def within {α : Type} (ctx : Context) (e : Effect (Session ε) α) : Effect (Session ε) α := fun s =>
  match e { s with current := ctx } with
  | .ok a s' => .ok a { s' with current := s.current }
  | .error f s' => .error f { s' with current := s.current }

def withRunId {α : Type} (id : Option String) (e : Effect (Session ε) α) : Effect (Session ε) α :=
  match id with
  | none => e
  | some id => fun s =>
    match e { s with runId := some id } with
    | .ok a s' => .ok a { s' with runId := s.runId }
    | .error f s' => .error f { s' with runId := s.runId }

/-- Runs a step whose changes of context, run and last trace are not seen outside. -/
def detached {α : Type} (e : Effect (Session ε) α) : Effect (Session ε) α := fun s =>
  let back (s' : Session ε) : Session ε :=
    { s' with current := s.current, runId := s.runId, lastTraceId := s.lastTraceId }
  match e s with
  | .ok a s' => .ok a (back s')
  | .error f s' => .error f (back s')

end Session

end CommandTelemetry
