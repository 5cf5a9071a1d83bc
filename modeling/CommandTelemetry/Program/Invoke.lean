import CommandTelemetry.Action.Interceptor
import CommandTelemetry.Program.Context

/-!
# Invoking commands

A command line is read, its command is run inside the chain of middleware, and the answer is
rendered. An ordinary failure ends here: it is logged, the trace is named for whoever looks for it,
and the exit code follows from the failure. Any other failure goes on to the caller.
-/

namespace CommandTelemetry.Program

open CommandLine

variable {ε : Type}

def failureLogger : String := "cli.telemetry"

/-- What a parameter is called that is given the context of the run. -/
def contextLabel : String := "run_context"

/-- A parameter that is given the context of the run. -/
def takesContext (p : Parameter) : Bool := p.takesContext || p.label = contextLabel

/-- A parameter that is given nothing but cannot go without. -/
def lacks (context : Option RunContext) (p : Parameter) : Bool :=
  p.isRequired && !(context.isSome && takesContext p)

/-- What a target does when it is called. -/
def callTarget (target : Target (Behaviour ε)) (call : Call) : Effect (Session ε) Answer := do
  match target with
  | .help => pure .nothing
  | .version =>
    modify fun s => s.print s.package.shownVersion
    pure .nothing
  | .command c =>
    match c.injected.find? (lacks call.context) with
    | some p => Effect.fault (.missingInjection c.name p.label)
    | none => c.behaviour call

/-- The action of an invocation: it answers with a result or with nothing. -/
def action (i : Invocation (Behaviour ε)) (context : Option RunContext) :
    Action (Session ε) := fun _ => do
  let answer ← callTarget i.target { binding := i.binding, context }
  Effect.ofExcept answer.ofCommand

/-- Prints what an answer says, and yields the exit code. -/
def render (answer : Answer) : Effect (Session ε) Int := do
  let rendering := answer.render
  modify fun s => rendering.lines.foldl Session.print s
  Effect.ofExcept rendering.outcome

/-- Names the trace of a failure for whoever looks for it. -/
def nameTrace (s : Session ε) : Session ε :=
  match s.lastTraceId with
  | none | some "" => s
  | some id => { s with diagnostics := s.diagnostics ++ [s!"TraceID: {id}"] }

/-- Reports an ordinary failure, and yields the exit code. -/
def report (f : Failure) : Effect (Session ε) Int := do
  Session.take ⟨(), [⟨.error, failureLogger, "Command execution failed."⟩]⟩
  modify nameTrace
  pure f.exitCode.number

/-- The chain of an invocation where no other is asked for. -/
def usualChain (settings : Attribute.Settings := Attribute.usualSettings) :
    List (Factory (Session ε)) :=
  [Interceptor.factory (·.usage) Label.wellKnownDomains settings]

/-- Reads a command line and runs its command; yields the exit code. -/
def invoke (grammar : Grammar (Behaviour ε)) (context : Option RunContext)
    (chain : List (Factory (Session ε))) (words : List String) : Effect (Session ε) Int := do
  match Invocation.ofWords grammar (← get).environment words with
  | .error r => pure r.exitCode.number
  | .ok i =>
    let run := Action.run chain none i.options (action i context)
    match ← Effect.attempt (Session.withRunId (context.map (·.runId)) run) with
    | .ok answer => render answer
    | .error f => if f.isOrdinary then report f else throw f

end CommandTelemetry.Program
