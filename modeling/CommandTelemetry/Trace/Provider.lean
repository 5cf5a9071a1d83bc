import CommandTelemetry.Numeral.Binary
import CommandTelemetry.Setting.Telemetry
import CommandTelemetry.Trace.Span

/-!
# Providers

A provider decides which spans record and keeps those that end, if it has a memory. A root span is
sampled by the low half of its trace identifier, so that a trace is sampled as a whole wherever it
is seen; any other span follows the one above it.
-/

namespace CommandTelemetry.Trace

open Text Numeral

structure Provider where
  serviceName : String
  serviceVersion : Option String
  /-- Root spans whose trace identifier has a low half below this are sampled. -/
  bound : Nat
  limits : Limits
  isDisabled : Bool
  exporter : Exporter
  isClosed : Bool := false
  /-- The spans that have ended, in the order of their ends. -/
  finished : List Span := []

namespace Provider

/-- How many low halves of trace identifiers there are. -/
def halves : Nat := 1 <<< 64

/-- The share of the low halves that a ratio stands for. -/
def boundOf : Ratio → Except Fault Nat
  | .whole n => if n < 0 ∨ 1 < n then .error .badProbability else .ok (n.toNat * halves)
  | .real x =>
    if x < 0.0 ∨ 1.0 < x then .error .badProbability
    else if x.isNaN then .error .integerOfNaN
    else .ok (roundScaled x halves)

/-- The variable that turns tracing off altogether. -/
def disabledBy (env : Environment) : Bool :=
  match env.get? "OTEL_SDK_DISABLED" with
  | some raw => strip (lower raw) = "true"
  | none => false

/-- What a service without a name is called. -/
def unknownService : String := "unknown_service"

/-- The provider that settings ask for. -/
def build (env : Environment) (settings : TelemetrySettings) : Except Fault Provider := do
  let bound ← boundOf settings.ratio
  let limits ← Limits.resolve env settings.countLimit settings.lengthLimit
  pure
    { serviceName := if settings.serviceName = "" then unknownService else settings.serviceName
      serviceVersion := settings.serviceVersion.filter (· ≠ "")
      bound
      limits
      isDisabled := disabledBy env
      exporter := settings.exporter }

/-- A provider with a memory that samples all spans. -/
def inMemory (env : Environment) : Except Fault Provider := do
  let limits ← Limits.resolve env none none
  pure
    { serviceName := unknownService
      serviceVersion := none
      bound := halves
      limits
      isDisabled := disabledBy env
      exporter := .memory }

/-- The span below `parent` with these identifiers is sampled. -/
def samples (p : Provider) (parent : SpanContext) (traceId : Nat) : Bool :=
  if parent.isValid then parent.sampled else traceId % halves < p.bound

/-- Takes in a span that ends. -/
def finish (p : Provider) (span : Span) : Provider :=
  if span.isRecording ∧ p.exporter = .memory ∧ ¬p.isClosed then
    { p with finished := p.finished ++ [span] }
  else p

def close (p : Provider) : Provider := { p with isClosed := true }

end Provider

/-- The identifiers that are next. -/
structure Ids where
  /-- The last trace identifier that was counted. -/
  trace : Nat := 0
  /-- The last span identifier. -/
  span : Nat := 0
  /-- Trace identifiers to use before counting. -/
  reserved : List Nat := []
  deriving Repr

namespace Ids

def nextTrace (ids : Ids) : Nat × Ids :=
  match ids.reserved with
  | n :: rest => (n, { ids with reserved := rest })
  | [] => (ids.trace + 1, { ids with trace := ids.trace + 1 })

def nextSpan (ids : Ids) : Nat × Ids := (ids.span + 1, { ids with span := ids.span + 1 })

end Ids

end CommandTelemetry.Trace
