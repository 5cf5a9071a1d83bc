import CommandTelemetry.Json.Document
import CommandTelemetry.Program.Context
import CommandTelemetry.Value.Canonical

/-!
# Reports about the program

Two commands report in JSON: one on the version and on whether spans are collected, the other on all
settings of telemetry. Members stand in the order of their names.
-/

namespace CommandTelemetry.Program

open Json

def optionalText (s : Option String) : Document := (s.map Document.text).getD .null

/-- Whether spans are collected, and where they go; an exporter that gets none is not named. -/
def telemetryReport (s : TelemetrySettings) : List (String × Document) :=
  [("enabled", .bool s.enabled),
   ("exporter", if s.enabled then .text s.exporter.name else .null),
   ("service_name", .text s.serviceName)]

def versionReport (p : Package) (s : TelemetrySettings) : List (String × Document) :=
  [("cmdtrace", .text p.shownVersion),
   ("opentelemetry", optionalText p.toolkit),
   ("python", .text p.language),
   ("telemetry", .object (telemetryReport s))]

/-- The settings by name, with the name of the run if there is one. -/
def settingsReport (context : Option RunContext) (s : TelemetrySettings) :
    List (String × Value) :=
  s.report ++ (context.map fun c => ("run_id", Value.text c.runId)).toList

variable {ε : Type}

def printDocument (d : Document) : Effect (Session ε) Unit :=
  modify (·.print (d.layOut 0))

def success : Answer := .value (.int 0)

def showVersion (context : Option RunContext) : Effect (Session ε) Answer := do
  let settings ← settingsOf context
  printDocument (.object (versionReport (← get).package settings))
  pure success

def showSettings (context : Option RunContext) : Effect (Session ε) Answer := do
  let settings ← settingsOf context
  let entries := (settingsReport context settings).map fun e => (Value.text e.1, e.2)
  printDocument (← Effect.ofExcept (Value.mapping entries).document)
  pure success

end CommandTelemetry.Program
