import CommandTelemetry.CommandLine.Leading
import CommandTelemetry.Program.Commands
import CommandTelemetry.Program.Invoke
import CommandTelemetry.Session.Provision

/-!
# Launching the program

The program's own options are taken out of the command line first. They name the run, set the level
of logging, and say whether and where spans are collected. Then logging and telemetry are set up,
the command is invoked, and telemetry is shut down however the command ended.
-/

namespace CommandTelemetry.Program

open CommandLine

variable {ε : Type}

def runParameter : Parameter where
  label := "run_id"
  slot := .named
  names := ["--run-id"]

def levelParameter : Parameter where
  label := "log_level"
  slot := .named
  names := ["--log-level"]
  kind := .choice ["DEBUG", "INFO", "WARNING", "ERROR"]
  variableName := some "CMDTRACE_LOG_LEVEL"

def collectParameter : Parameter where
  label := "collect_telemetry"
  slot := .named
  names := ["--collect-telemetry"]
  kind := .switch

def exporterParameter : Parameter where
  label := "traces_exporter"
  slot := .named
  names := ["--traces-exporter"]
  kind := .looseChoice (Exporter.all.map (·.name))

/-- The options of the program itself. -/
def ownParameters : List Parameter :=
  [runParameter, levelParameter, collectParameter, exporterParameter]

def usualLevel : String := "WARNING"

structure Preferences where
  runId : Option String
  logLevel : String
  overrides : Overrides

def Preferences.ofBinding (b : Binding) : Preferences where
  runId := (b.values runParameter.label).head?
  logLevel := (b.values levelParameter.label).head?.getD usualLevel
  overrides :=
    { enabled := b.truth? collectParameter.label
      exporter := (b.values exporterParameter.label).head?.bind fun word =>
        Exporter.all.find? (·.name = Text.lower word) }

/-- The name of the run: the one that is asked for, unless it is empty, or else a fresh one. -/
def Preferences.runName (p : Preferences) (fresh : String) : String :=
  match p.runId with
  | none | some "" => fresh
  | some id => id

/-- Sets up logging and telemetry, and yields the context of the run. -/
def setUp (p : Preferences) (fresh : String) : Effect (Session ε) RunContext := do
  Session.configureLogging p.logLevel
  let s ← get
  let settings ← Session.take
    (TelemetrySettings.resolve s.environment s.loaded.instrumentation p.overrides)
  let _ ← Session.provide settings
  pure { runId := p.runName fresh, logLevel := p.logLevel, telemetry := some settings }

/-- Runs a command line of the program; `fresh` names the run if nothing else does. -/
def launch (fresh : String) (words : List String) : Effect (Session ε) Int := do
  if asksForHelp words then pure ExitCode.success.number
  else if startsWith (grammar (ε := ε)).versionOptions words then
    modify fun s => s.print s.package.shownVersion
    pure ExitCode.success.number
  else
    match Binding.ofLeading (← get).environment ownParameters (grammar (ε := ε)) words with
    | .error r => pure r.exitCode.number
    | .ok (b, rest) =>
      let context ← setUp (Preferences.ofBinding b) fresh
      let chain := usualChain (← get).loaded.attributes
      let outcome ← Effect.attempt (invoke grammar (some context) chain rest)
      Session.shutDown
      Effect.conclude outcome

end CommandTelemetry.Program
