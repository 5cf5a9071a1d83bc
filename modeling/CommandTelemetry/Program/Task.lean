import CommandTelemetry.Session.Basic

/-!
# Tasks

A command may run as a task of its own. Such a task starts with the current context, run and last
trace, and what it changes of them is not seen outside. The failure that ends an iteration must not
leave a task, where it would be taken for the task's own end, so it is wrapped.
-/

namespace CommandTelemetry.Program

open Failure

variable {ε α : Type}

/-- What leaves a task when a failure ends it. -/
def taskFailure (f : Failure) : Failure :=
  if f.node.isA "StopIteration" then
    f.causing (Node.general "RuntimeError" "coroutine raised StopIteration")
  else f

/-- Runs a step as a task of its own. -/
def asTask (e : Effect (Session ε) α) : Effect (Session ε) α := do
  Effect.conclude ((← Effect.attempt (Session.detached e)).mapError taskFailure)

end CommandTelemetry.Program
