import CommandTelemetry.Action.Result
import CommandTelemetry.CommandLine.Invocation
import CommandTelemetry.Setting.Telemetry
import CommandTelemetry.Session.Basic

/-!
# What commands are given

A command is called with what the command line says and, if its caller has one, with the context of
the run. It acts on the session and answers.
-/

namespace CommandTelemetry

open CommandLine

/-- The context of a run. -/
structure RunContext where
  runId : String
  logLevel : String := "WARNING"
  /-- The settings of telemetry, where they are settled already. -/
  telemetry : Option TelemetrySettings := none

namespace Program

/-- How a command is called. -/
structure Call where
  binding : Binding
  context : Option RunContext

abbrev Behaviour (ε : Type) := Call → Effect (Session ε) Answer

/-- The settings that hold in a run. -/
def settingsOf {ε : Type} (context : Option RunContext) : Effect (Session ε) TelemetrySettings := do
  match context.bind (·.telemetry) with
  | some settings => pure settings
  | none =>
    let s ← get
    Session.take (TelemetrySettings.resolve s.environment s.loaded.instrumentation)

end Program

end CommandTelemetry
