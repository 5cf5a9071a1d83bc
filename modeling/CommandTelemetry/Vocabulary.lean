/-!
# Vocabulary

The names under which telemetry records anything. Details of a failure are recorded under names of
this vocabulary only, each behind the word that marks it as part of an error.
-/

namespace CommandTelemetry

inductive AttributeName where
  | runId
  | cmdEntry
  | cmdFlags
  | cmdArgsCount
  | serviceName
  | serviceHost
  | serviceMethod
  | serviceErrorCode
  | serviceStatusCode
  | serviceCorrelationId
  | toolName
  | toolExitCode
  | toolInvoked
  deriving DecidableEq, Repr

namespace AttributeName

def all : List AttributeName :=
  [runId, cmdEntry, cmdFlags, cmdArgsCount, serviceName, serviceHost, serviceMethod,
   serviceErrorCode, serviceStatusCode, serviceCorrelationId, toolName, toolExitCode, toolInvoked]

def key : AttributeName → String
  | runId => "cmdtrace.run_id"
  | cmdEntry => "cmd.entry"
  | cmdFlags => "cmd.flags"
  | cmdArgsCount => "cmd.args.count"
  | serviceName => "service.name"
  | serviceHost => "service.host"
  | serviceMethod => "service.method"
  | serviceErrorCode => "service.error.code"
  | serviceStatusCode => "service.status.code"
  | serviceCorrelationId => "service.correlation.id"
  | toolName => "tool.name"
  | toolExitCode => "tool.exit.code"
  | toolInvoked => "tool.invoked"

/-- The name by which the vocabulary lists an attribute. -/
def title : AttributeName → String
  | runId => "RUN_ID"
  | cmdEntry => "CMD_ENTRY"
  | cmdFlags => "CMD_FLAGS"
  | cmdArgsCount => "CMD_ARGS_COUNT"
  | serviceName => "SERVICE_NAME"
  | serviceHost => "SERVICE_HOST"
  | serviceMethod => "SERVICE_METHOD"
  | serviceErrorCode => "SERVICE_ERROR_CODE"
  | serviceStatusCode => "SERVICE_STATUS_CODE"
  | serviceCorrelationId => "SERVICE_CORRELATION_ID"
  | toolName => "TOOL_NAME"
  | toolExitCode => "TOOL_EXIT_CODE"
  | toolInvoked => "TOOL_INVOKED"

end AttributeName

/-- The key of a detail of a failure. -/
def errorKey (key : String) : String := "error." ++ key

/-- The parts of the program that open spans. -/
inductive Scope where
  | root
  | cli
  | obs
  deriving DecidableEq, Repr

namespace Scope

def all : List Scope := [root, cli, obs]

def name : Scope → String
  | root => "cmdtrace"
  | cli => "cmdtrace.cli"
  | obs => "cmdtrace.obs"

def title : Scope → String
  | root => "ROOT"
  | cli => "CLI"
  | obs => "OBS"

end Scope

/-- The attributes of the process as a whole. -/
inductive ResourceAttribute where
  | serviceName
  | serviceVersion
  | serviceInstanceId
  deriving DecidableEq, Repr

namespace ResourceAttribute

def all : List ResourceAttribute := [serviceName, serviceVersion, serviceInstanceId]

def key : ResourceAttribute → String
  | serviceName => "service.name"
  | serviceVersion => "service.version"
  | serviceInstanceId => "service.instance.id"

def title : ResourceAttribute → String
  | serviceName => "SERVICE_NAME"
  | serviceVersion => "SERVICE_VERSION"
  | serviceInstanceId => "SERVICE_INSTANCE_ID"

end ResourceAttribute

/-- The categories of failures, the first that applies first. -/
inductive ErrorCategory where
  | service
  | deployment
  | tool
  | auth
  | unknown
  deriving DecidableEq, Repr

namespace ErrorCategory

def all : List ErrorCategory := [service, deployment, tool, auth, unknown]

def name : ErrorCategory → String
  | service => "ServiceError"
  | deployment => "DeploymentError"
  | tool => "ToolExecutionError"
  | auth => "AuthError"
  | unknown => "UnknownError"

def title : ErrorCategory → String
  | service => "SERVICE"
  | deployment => "DEPLOYMENT"
  | tool => "TOOL"
  | auth => "AUTH"
  | unknown => "UNKNOWN"

end ErrorCategory

/-- Where finished spans are sent. -/
inductive Exporter where
  | none
  | console
  | memory
  deriving DecidableEq, Repr

namespace Exporter

def all : List Exporter := [none, console, memory]

def name : Exporter → String
  | none => "none"
  | console => "console"
  | memory => "memory"

def title : Exporter → String
  | none => "NONE"
  | console => "CONSOLE"
  | memory => "MEMORY"

end Exporter

end CommandTelemetry
