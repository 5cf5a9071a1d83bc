/-!
# Exit codes

The statuses with which a command can end: success, four general failures, and one status for each
of the four failure shapes that telemetry knows.
-/

namespace CommandTelemetry

inductive ExitCode where
  | success
  | generalError
  | parseError
  | validationError
  | configError
  | serviceError
  | deploymentError
  | toolError
  | authError
  deriving DecidableEq, Repr

namespace ExitCode

def all : List ExitCode :=
  [success, generalError, parseError, validationError, configError, serviceError, deploymentError,
   toolError, authError]

/-- The status that the process reports. -/
def number : ExitCode → Int
  | success => 0
  | generalError => 1
  | parseError => 2
  | validationError => 3
  | configError => 4
  | serviceError => 20
  | deploymentError => 21
  | toolError => 22
  | authError => 23

def name : ExitCode → String
  | success => "SUCCESS"
  | generalError => "GENERAL_ERROR"
  | parseError => "PARSE_ERROR"
  | validationError => "VALIDATION_ERROR"
  | configError => "CONFIG_ERROR"
  | serviceError => "SERVICE_ERROR"
  | deploymentError => "DEPLOYMENT_ERROR"
  | toolError => "TOOL_ERROR"
  | authError => "AUTH_ERROR"

def ofNumber? (n : Int) : Option ExitCode := all.find? (·.number == n)

end ExitCode

end CommandTelemetry
