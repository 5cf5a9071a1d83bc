import CommandTelemetry.Failure.DeploymentCodes
import CommandTelemetry.Failure.Search
import CommandTelemetry.Label.Service
import CommandTelemetry.Label.Tool
import CommandTelemetry.Log.Record
import CommandTelemetry.Vocabulary

/-!
# Classification of failures

A failure is reduced to a category, a code and a few details. The reduction looks at the shapes of
failures only and never at their messages, so that no argument or secret reaches telemetry through
them. Of several known shapes in one graph, the category that stands first decides, and within it
the failure that the search finds first.
-/

namespace CommandTelemetry.Failure

open Label

structure Classification where
  category : ErrorCategory
  /-- The description of the failed span, such as `service.arm.404`. -/
  code : String
  details : List (AttributeName × Value)

namespace Classification

/-- The details as attributes of a span. -/
def attributes (c : Classification) : List (String × Value) :=
  c.details.map fun d => (errorKey d.1.key, d.2)

/-- The first detail of a name. -/
def detail? (c : Classification) (key : String) : Option Value :=
  (c.details.find? fun d => d.1.key = key).map (·.2)

end Classification

def ofService (domains : List Domain) (errorCode : String) (response : Option Response) :
    Classification :=
  let label : Service :=
    match response.bind (·.request) with
    | some q => resolveService domains q.host
    | none => unknownService
  let status : Int :=
    match response with
    | some r => r.statusCode
    | none => -1
  { category := .service
    code := s!"service.{label.service}.{status}"
    details :=
      (.serviceErrorCode, .text errorCode) ::
        match response with
        | none => []
        | some r =>
          (.serviceStatusCode, .int r.statusCode) ::
            match r.request with
            | none => []
            | some q =>
              [(.serviceHost, .text label.host), (.serviceMethod, .text q.method),
               (.serviceName, .text label.service)] }

/-- A failed deployment, given the text of its codes. -/
def ofDeployment (codes : Option String) : Classification where
  category := .deployment
  code := "service.arm.deployment.failed"
  details :=
    (.serviceName, .text "arm") ::
      match codes with
      | some s => [(.serviceErrorCode, .text s)]
      | none => []

/-- The label of a tool, where one without a name is another tool. -/
def toolLabel (command : String) : String :=
  if toolName command = "" then other else toolName command

def ofTool (command : String) (exitCode : Int) : Classification where
  category := .tool
  code := s!"tool.{toolLabel command}.failed"
  details := [(.toolExitCode, .int exitCode), (.toolName, .text (toolLabel command))]

def ofAuth (payload : Option AuthPayload) : Classification where
  category := .auth
  code := "service.aad.failed"
  details :=
    (.serviceName, .text "aad") ::
      match payload with
      | none => []
      | some p =>
        [(.serviceStatusCode, .text p.error),
         (.serviceErrorCode, .text (",".intercalate (p.codes.map toString))),
         (.serviceCorrelationId, .text p.correlationId)]

def unclassified : Classification where
  category := .unknown
  code := "UnknownError"
  details := []

/-- The shape that decides the category. -/
def decisiveShape (f : Failure) : Shape :=
  match f.findNode? Node.isService with
  | some n => n.shape
  | none =>
    match f.findNode? Node.isDeployment with
    | some n => n.shape
    | none =>
      match f.findNode? Node.isTool with
      | some n => n.shape
      | none =>
        match f.findNode? Node.isAuth with
        | some n => n.shape
        | none => .plain

/-- The classification of a failure, given what makes a text of the codes of a deployment. -/
def classifyWith {m : Type → Type} [Monad m] (encode : List DeploymentCode → m (Option String))
    (domains : List Domain) (f : Failure) : m Classification := do
  match f.decisiveShape with
  | .service errorCode response => pure (ofService domains errorCode response)
  | .deployment details =>
    match deploymentCodes details with
    | [] => pure (ofDeployment none)
    | codes => return ofDeployment (← encode codes)
  | .tool command exitCode => pure (ofTool command exitCode)
  | .auth payload => pure (ofAuth payload)
  | _ => pure unclassified

/-- The dense text of the codes of a deployment. -/
def denseCodes (codes : List DeploymentCode) : Option String :=
  match denseEncoder (codes.map (·.toEntry)) with
  | .ok s => some s
  | .error _ => none

def classify (domains : List Domain) (f : Failure) : Classification :=
  (f.classifyWith (m := Id) denseCodes domains).run

def logger : String := "cli.error_mapping"

/-- The text of codes. An encoder that refuses them is reported, and there is no text; one that is
broken makes the classification fail. -/
def encodeCodes (encoder : CodesEncoder) (entries : List (Value × Value)) :
    Except Fault (Logged (Option String)) :=
  match encoder entries with
  | .ok s => .ok (pure (some s))
  | .error (.refused reason) =>
    .ok (Logged.warn logger s!"telemetry: failed to encode deployment error codes: {reason}" none)
  | .error (.broken reason) => .error (.encoderBroken reason)

/-- A step that may fail and may log. -/
abbrev Reporting := StateT (List Log.Record) (Except Fault)

def Reporting.ofLogged {α : Type} (x : Except Fault (Logged α)) : Reporting α := fun records =>
  x.map fun l => (l.value, records ++ l.records)

/-- The classification of a failure with an encoder of the caller's. -/
def classifyReporting (encoder : CodesEncoder) (domains : List Domain) (f : Failure) :
    Except Fault (Logged Classification) :=
  let encode (codes : List DeploymentCode) : Reporting (Option String) :=
    Reporting.ofLogged (encodeCodes encoder (codes.map (·.toEntry)))
  ((f.classifyWith encode domains).run []).map fun r => ⟨r.1, r.2⟩

/-- Where the command-line parser defines its failures. -/
def parserHome : String := "cyclopts"

/-- The exit code of a command that ends in a failure. The parser's failures come first, then the
known shapes anywhere in the graph, and then the class of the failure itself. -/
def exitCode (f : Failure) : ExitCode :=
  if parserHome.toList.isPrefixOf f.node.home.toList then
    if f.node.className = "ValidationError" then .validationError else .parseError
  else if (f.findNode? Node.isService).isSome then .serviceError
  else if (f.findNode? Node.isDeployment).isSome then .deploymentError
  else if (f.findNode? Node.isTool).isSome then .toolError
  else if (f.findNode? Node.isAuth).isSome then .authError
  else if f.node.isA "ValueError" || f.node.isA "TypeError" then .validationError
  else .generalError

end CommandTelemetry.Failure
