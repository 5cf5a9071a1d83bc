import CommandTelemetry.Setting.Package
import CommandTelemetry.Value.Display
import CommandTelemetry.Vocabulary

/-!
# Telemetry settings

Whether spans are recorded, where they go, and under which limits. What the caller states goes
before the environment, and a variable that does not read counts as unset, so that no text of any
variable keeps settings from being resolved.
-/

namespace CommandTelemetry

open Numeral

/-- A sampling ratio, which may be given as a whole number. -/
inductive Ratio where
  | whole (n : Int)
  | real (x : Float)

def Ratio.toValue : Ratio → Value
  | whole n => .int n
  | real x => .float x

structure TelemetrySettings where
  enabled : Bool
  exporter : Exporter
  serviceName : String
  serviceVersion : Option String
  ratio : Ratio
  countLimit : Option Int
  lengthLimit : Option Int

/-- What the caller states; the rest is left to the environment. -/
structure Overrides where
  enabled : Option Bool := none
  exporter : Option Exporter := none
  serviceName : Option String := none

namespace TelemetrySettings

def logger : String := "obs.otel.config"

def usualServiceName : String := "cmdtrace"

/-- Telemetry is on unless one of two variables turns it off. -/
def enabledBy (env : Environment) : Logged Bool := do
  match ← env.strictBool? "OTEL_SDK_DISABLED" with
  | some true => pure false
  | _ => return (← env.bool? "CMDTRACE_COLLECT_TELEMETRY").getD true

/-- The sampling ratio, which is one wherever the variable gives none within the unit interval. -/
def ratioBy (env : Environment) : Logged Float := do
  match ← env.number? "OTEL_TRACES_SAMPLER_ARG" with
  | none => pure 1.0
  | some x =>
    if 0.0 ≤ x ∧ x ≤ 1.0 then pure x
    else
      let shown := displayForm.write x
      Logged.warn logger s!"OTEL_TRACES_SAMPLER_ARG must be within [0, 1]; got {shown}." 1.0

def exporterChoices : List (Environment.Choice Exporter) :=
  Exporter.all.map fun e => ⟨e, [e.title, e.name]⟩

def exporterBy (env : Environment) : Logged Exporter := do
  return (← env.choice? "CMDTRACE_TRACES_EXPORTER" exporterChoices).getD .none

/-- The name of the service; an empty one does not count as stated. -/
def serviceNameBy (env : Environment) (stated : Option String) : String :=
  match stated with
  | some name => if name = "" then (env.text? "OTEL_SERVICE_NAME").getD usualServiceName else name
  | none => (env.text? "OTEL_SERVICE_NAME").getD usualServiceName

/-- The settings in an environment, for a program whose instrumentation was settled before. -/
def resolve (env : Environment) (instrumentation : Instrumentation) (given : Overrides := {}) :
    Logged TelemetrySettings := do
  let enabled ← match given.enabled with
    | some b => pure b
    | none => enabledBy env
  let exporter ← match given.exporter with
    | some e => pure e
    | none => exporterBy env
  let ratio ← ratioBy env
  let countLimit ← env.integer? "OTEL_ATTRIBUTE_COUNT_LIMIT"
  let lengthLimit ← env.integer? "OTEL_ATTRIBUTE_VALUE_LENGTH_LIMIT"
  pure
    { enabled
      exporter
      serviceName := serviceNameBy env given.serviceName
      serviceVersion := instrumentation.version
      ratio := .real ratio
      countLimit
      lengthLimit }

/-- The settings by name. -/
def report (s : TelemetrySettings) : List (String × Value) :=
  let optional (n : Option Int) : Value := (n.map Value.int).getD .null
  [("attribute_count_limit", optional s.countLimit),
   ("attribute_value_length_limit", optional s.lengthLimit),
   ("enabled", .bool s.enabled),
   ("exporter", .text s.exporter.name),
   ("sampler_ratio", s.ratio.toValue),
   ("service_name", .text s.serviceName),
   ("service_version", (s.serviceVersion.map Value.text).getD .null)]

end TelemetrySettings

end CommandTelemetry
