import CommandTelemetry.Program.Launch
import CommandTelemetry.Program.RunName

/-!
# The program

Reads the variables that count, runs the command line, and prints what came of it. No tool is
started from here: on this host every tool counts as not installed.
-/

namespace CommandTelemetry.Program

/-- The variables that settings are read from. -/
def variableNames : List String :=
  ["CMDTRACE_COLLECT_TELEMETRY", "CMDTRACE_LOG_LEVEL", "CMDTRACE_OTEL_REDACT_KEYS",
   "CMDTRACE_OTEL_SCHEMA_URL", "CMDTRACE_SERVICE_VERSION", "CMDTRACE_TRACES_EXPORTER",
   "OTEL_ATTRIBUTE_COUNT_LIMIT", "OTEL_ATTRIBUTE_VALUE_LENGTH_LIMIT", "OTEL_SCHEMA_URL",
   "OTEL_SDK_DISABLED", "OTEL_SERVICE_NAME", "OTEL_TRACES_SAMPLER_ARG"] ++
  [Trace.Limits.spanCount, Trace.Limits.spanLength] ++
  Trace.Limits.eventAndLinkCounts ++ Trace.Limits.eventAndLinkAttributes

def readEnvironment : IO Environment :=
  variableNames.filterMapM fun name => do
    return (← IO.getEnv name).map fun value => (name, value)

/-- The name of a run that is started now. -/
def currentName : IO String := do
  let now ← IO.monoMsNow
  let random ← IO.rand 0 (Nat.pow 2 62)
  return (freshName none now random).1

/-- The package as it runs here. -/
def installedPackage : Package where
  language := "4"
  toolkit := none

/-- The status of the process for an exit code, of which the low eight bits count. -/
def statusOf (code : Int) : UInt32 := (code % 256).toNat.toUInt32

/-- The line that a record is logged as. -/
def logLine (s : Session Unit) (r : Log.Record) : String :=
  let shown := s.logging.emit?
    { level := r.level, logger := r.logger, template := r.message, time := "-" }
  shown.getD ""

def printAll (s : Session Unit) : IO Unit := do
  IO.print s.printed
  IO.eprint (String.join (s.records.map (logLine s)))
  s.diagnostics.forM IO.eprintln

end CommandTelemetry.Program

open CommandTelemetry Program in
/-- Runs the command line of the process. -/
def main (words : List String) : IO UInt32 := do
  let environment ← readEnvironment
  let loaded := Loaded.ofEnvironment environment installedPackage.version
  let start : Session Unit :=
    { environment, loaded := loaded.value, package := installedPackage, own := ()
      records := loaded.records }
  match launch (← currentName) words start with
  | .ok code s =>
    printAll s
    return statusOf code
  | .error f s =>
    printAll s
    IO.eprintln s!"{f.node.className}: {f.node.message}"
    return statusOf ExitCode.generalError.number
