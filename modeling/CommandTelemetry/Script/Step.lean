import CommandTelemetry.Action.Interceptor
import CommandTelemetry.Script.Recorder

/-!
# Steps of scripts

A script is a list of steps, which act on usage, on contexts and on the name of the run, open spans,
look around, or run another script inside an invocation of its own. A step that answers or fails
ends the script. A script without such a step answers with nothing.

Scripts nest without bound, so what holds of all scripts holds of all histories of invocations.
-/

namespace CommandTelemetry.Script

open Trace

/-- Which context an invocation inside a script is given. -/
inductive Given where
  /-- The context of the script. -/
  | passed
  /-- None, so that the current one counts. -/
  | nothing
  /-- A context without anything in it. -/
  | empty
  deriving DecidableEq, Repr

inductive Step where
  /-- Records facts about use. -/
  | use (facts : List (Value × Value))
  | clearUse
  /-- Records a fact in the usage of the process. -/
  | useShared (k v : Value)
  /-- Runs a script as an invocation inside the current one. -/
  | invoke (asChild : Bool) (options : CommandOptions) (given : Given) (catches : Bool)
      (steps : List Step)
  /-- Opens a span, writes attributes on it and ends it. -/
  | span (name : String) (entries : List (Value × Value))
  /-- Puts baggage into the context for the steps that follow. -/
  | baggage (entries : List (Value × Value))
  | look
  | nameRun (id : String)
  /-- Gives the run the name that it had before. -/
  | restoreRun
  | forgetTrace
  | fail (f : Failure)
  | answer (a : Answer)

/-- What scripts run on. -/
structure Setup where
  factories : List (Factory Stage)
  /-- Scripts record their use in the usage of the process. -/
  sharesUsage : Bool := false

/-- The usage that scripts record in. -/
def Setup.usage (setup : Setup) (s : Stage) : Usage :=
  if setup.sharesUsage then s.usage else s.own.usage

/-- Changes the usage that scripts record in. -/
def Setup.changeUsage (setup : Setup) (f : Usage → Usage) : Effect Stage Unit :=
  modify fun s =>
    if setup.sharesUsage then { s with usage := f s.usage }
    else { s with own := { s.own with usage := f s.own.usage } }

def nameRun (id : String) : Effect Stage Unit :=
  modify fun s =>
    { s with
      runId := some id
      own := { s.own with earlierRuns := s.runId :: s.own.earlierRuns } }

def restoreRun : Effect Stage Unit :=
  modify fun s =>
    match s.own.earlierRuns with
    | [] => s
    | id :: rest => { s with runId := id, own := { s.own with earlierRuns := rest } }

/-- Opens a span in the current context, writes attributes on it and ends it. -/
def markSpan (name : String) (entries : List (Value × Value)) : Effect Stage Unit := do
  let span ← Session.openSpan .obs name none
  let span ← Session.recordOn span entries
  Session.closeSpan span
  write (.spanned span.context.traceText)

/-- Writes down how an invocation inside a script ended. -/
def noteOutcome (catches : Bool) : Except Failure Answer → Effect Stage Unit
  | .ok a => write (.answered a)
  | .error f => if catches && f.isOrdinary then write (.caught f.node.className) else throw f

/-- The context that an invocation is given. -/
def Given.context (given : Given) (ctx : Option Context) : Option Context :=
  match given with
  | passed => ctx
  | nothing => none
  | empty => some {}

/-- Runs a script in a context. -/
def perform (setup : Setup) : List Step → Action Stage
  | [], _ => pure .nothing
  | .answer a :: _, _ => pure a
  | .fail f :: _, _ => throw f
  | .baggage entries :: rest, ctx => do
    perform setup rest (some (← Session.setBaggage ctx entries))
  | .use facts :: rest, ctx => do
    setup.changeUsage (·.update facts)
    perform setup rest ctx
  | .clearUse :: rest, ctx => do
    setup.changeUsage fun _ => []
    perform setup rest ctx
  | .useShared k v :: rest, ctx => do
    modify fun s => { s with usage := s.usage.set k v }
    perform setup rest ctx
  | .invoke asChild options given catches steps :: rest, ctx => do
    let invocation := if asChild then Action.runChild else Action.run
    let inside := invocation setup.factories (given.context ctx) options (perform setup steps)
    noteOutcome catches (← Effect.attempt inside)
    perform setup rest ctx
  | .span name entries :: rest, ctx => do
    markSpan name entries
    perform setup rest ctx
  | .look :: rest, ctx => do
    write (.viewed ((← get).view ctx))
    perform setup rest ctx
  | .nameRun id :: rest, ctx => do
    nameRun id
    perform setup rest ctx
  | .restoreRun :: rest, ctx => do
    restoreRun
    perform setup rest ctx
  | .forgetTrace :: rest, ctx => do
    modify fun s => { s with lastTraceId := none }
    perform setup rest ctx

end CommandTelemetry.Script
