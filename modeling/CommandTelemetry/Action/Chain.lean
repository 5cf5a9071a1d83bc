import CommandTelemetry.Action.Options
import CommandTelemetry.Action.Result
import CommandTelemetry.Session.Basic

/-!
# Chains of middleware

A middleware wraps the rest of a chain: it may change the context that it passes on, run the rest
any number of times or not at all, replace the answer, fail, or catch a failure. Middleware is made
for each invocation by factories, all of which are called before the first middleware runs. The
first factory makes the outermost middleware.

Running a chain is a recursion on the list of middleware, so a chain of two parts is the first part
around the second one.
-/

namespace CommandTelemetry

open Trace

/-- What runs at the end of a chain, in the context that is passed to it. -/
abbrev Action (σ : Type) := Option Context → Effect σ Answer

abbrev Middleware (σ : Type) := Option Context → Action σ → Effect σ Answer

abbrev Factory (σ : Type) := CommandOptions → Effect σ (Middleware σ)

namespace Action

variable {σ : Type}

/-- The action inside a chain. -/
def wrap : List (Middleware σ) → Action σ → Action σ
  | [], action => action
  | m :: rest, action => fun ctx => m ctx (wrap rest action)

/-- An action that answered with nothing has an empty result. -/
def resultOf : Answer → Answer
  | .nothing => .result {}
  | a => a

/-- Runs an action inside the middleware that the factories make for it. -/
def run (factories : List (Factory σ)) (ctx : Option Context) (options : CommandOptions)
    (action : Action σ) : Effect σ Answer := do
  let chain ← factories.mapM (· options)
  return resultOf (← wrap chain action ctx)

/-- Runs an action as an invocation inside the current one. -/
def runChild (factories : List (Factory σ)) (ctx : Option Context) (options : CommandOptions)
    (action : Action σ) : Effect σ Answer :=
  run factories ctx { options with isChild := true } action

end Action

end CommandTelemetry
