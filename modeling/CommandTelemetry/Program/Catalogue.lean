import CommandTelemetry.Fault
import CommandTelemetry.Vocabulary

/-!
# The catalogue

The parts of the telemetry that programs may ask for by name. A name stands for a definition, which
has a home, or for the text of a scope. Names that are not in the catalogue are refused.
-/

namespace CommandTelemetry.Program

/-- What a name of the catalogue stands for. -/
inductive Part where
  /-- A definition of this name and home. -/
  | definition (home : String)
  | scope (s : Scope)
  deriving Repr

/-- Where the catalogue is found. -/
def catalogueHome : String := "obs.otel"

/-- The definitions by home. -/
def definitionsByHome : List (String × List String) :=
  [("constants", ["AttributeName", "error_key"]),
   ("bootstrap", ["OtelProviders", "configure_otel", "shutdown_otel"]),
   ("config",
     ["TelemetryConfig", "TelemetryConfigOverrides", "TraceExporterKind",
      "resolve_telemetry_config"]),
   ("usage", ["UsageAttributes", "process_usage_attributes", "set_usage_attribute"]),
   ("baggage", ["baggage_attributes", "set_baggage_in_context"]),
   ("events", ["command_event_name"]),
   ("logging", ["configure_logging"]),
   ("run_context",
     ["get_last_trace_id", "get_run_id", "reset_run_id", "set_last_trace_id", "set_run_id"]),
   ("tracing", ["get_tracer", "set_span_attributes", "span_trace_id"]),
   ("anonymize", ["resolve_service", "tool_name_from_path"])]

def catalogue : List (String × Part) :=
  Scope.all.map (fun s => ("SCOPE_" ++ s.title, Part.scope s)) ++
    definitionsByHome.flatMap fun e =>
      e.2.map fun name => (name, Part.definition (catalogueHome ++ "." ++ e.1))

/-- The text for a part. -/
def Part.text (name : String) : Part → String
  | definition home => home ++ ":" ++ name
  | scope s => s.name

/-- Asks for a part by name. -/
def lookUp (name : String) : Except Fault String :=
  match catalogue.lookup name with
  | some part => .ok (part.text name)
  | none => .error (.noExport catalogueHome name)

def catalogueNames : List String := (catalogue.map (·.1)).mergeSort fun a b => a ≤ b

end CommandTelemetry.Program
