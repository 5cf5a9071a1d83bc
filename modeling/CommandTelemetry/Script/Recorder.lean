import CommandTelemetry.Script.Journal

/-!
# Recorders

Middleware that notes in the journal when it is entered and left, and that otherwise does as it is
told: it may leave out the rest of the chain, run it twice, withhold the context, replace the answer
or swallow a failure. Together with the interceptor such middleware makes up the chains of scripts.
-/

namespace CommandTelemetry.Script

open Trace

/-- What a recorder does with the rest of the chain. -/
inductive Conduct where
  /-- Runs it once and passes on how it ends. -/
  | pass
  /-- Answers in its place. -/
  | skip (a : Answer)
  /-- Runs it one time more before, and ends with a failure of that run. -/
  | twice
  /-- Runs it without the context. -/
  | withhold
  /-- Answers for it where it fails. -/
  | swallow (a : Answer)
  /-- Drops its answer. -/
  | discard

structure Recorder where
  name : String
  conduct : Conduct

namespace Recorder

def keep (r : Recorder) (a : Answer) : Answer :=
  match r.conduct with
  | .discard => .nothing
  | _ => a

/-- Passes on how the rest of the chain ended. -/
def finish (r : Recorder) : Except Failure Answer → Effect Stage Answer
  | .ok a => do
    write (.left r.name)
    pure (r.keep a)
  | .error f => do
    if f.isOrdinary then
      write (.failed r.name f.node.className)
      match r.conduct with
      | .swallow a => do
        write (.left r.name)
        pure a
      | _ => throw f
    else throw f

/-- The recorder of an invocation. -/
def run (r : Recorder) (options : CommandOptions) : Middleware Stage := fun ctx next => do
  write (.entered r.name options.path options.isChild)
  match r.conduct with
  | .skip a => pure a
  | .withhold => r.finish (← Effect.attempt (next none))
  | .twice => do
    let _ ← next ctx
    r.finish (← Effect.attempt (next ctx))
  | _ => r.finish (← Effect.attempt (next ctx))

def factory (r : Recorder) : Factory Stage := fun options => pure (r.run options)

end Recorder

end CommandTelemetry.Script
