import CommandTelemetry.Session.Basic

/-!
# Provision of a session

A session is provided with telemetry and with logging. Telemetry is installed once: as soon as a
provider is there, further settings change nothing, and settings that turn telemetry off install
nothing. At the end of the program the provider is closed.
-/

namespace CommandTelemetry.Session

open Trace

variable {ε : Type}

def provisionLogger : String := "obs.otel.bootstrap"

/-- Notes that telemetry is turned off. -/
def disabledRecord : Log.Record :=
  ⟨.debug, provisionLogger,
   "Telemetry disabled; leaving the no-op tracer provider in place."⟩

/-- Spans are opened through the first provider that is set. -/
def setProvider (s : Session ε) (p : Provider) : Session ε :=
  { s with provider := s.provider.or (some p) }

/-- What hands contexts on where telemetry is installed. -/
def usualPropagators : List Propagator := [.traceContext, .baggage]

/-- The session with a provider that was built for it. -/
def install (s : Session ε) (p : Provider) : Session ε :=
  { s.setProvider p with propagators := some usualPropagators, installed := some p }

/-- Installs the provider that settings ask for, unless one was installed before, and yields the
installed one. -/
def provide (settings : TelemetrySettings) : Effect (Session ε) (Option Provider) := do
  let s ← get
  match s.installed with
  | some p => pure (some p)
  | none =>
    if settings.enabled then
      let p ← Effect.ofExcept (Provider.build s.environment settings)
      modify (·.install p)
      pure (some p)
    else
      take ⟨none, [disabledRecord]⟩

/-- Closes the provider, if one was installed. -/
def shutDown : Effect (Session ε) Unit :=
  modify fun s =>
    match s.installed with
    | some _ => { s with provider := s.provider.map (·.close) }
    | none => s

/-- Configures the root of the loggers. -/
def configureLogging (level : String) (format : String := Log.traceFormat) :
    Effect (Session ε) Unit := fun s =>
  let (logging, outcome) := s.logging.configure level format
  Effect.ofExcept outcome { s with logging }

end CommandTelemetry.Session
