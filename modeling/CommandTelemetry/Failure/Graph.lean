import CommandTelemetry.Fault
import CommandTelemetry.Failure.Class
import CommandTelemetry.Text.Blank
import CommandTelemetry.Value.Basic

/-!
# Failures

A failure is a node of a finite graph. A node has a shape, which holds what is known about the
failure, and a message, which is for people only. It is linked to other nodes: to its members, if it
is a group, and to the failure that caused it or, unless that is suppressed, to the one that was
being handled when it came up. Links may share nodes and form cycles.
-/

namespace CommandTelemetry

open Text

namespace Failure

structure Request where
  method : String
  host : String
  deriving DecidableEq, Repr

/-- What is retained of a service's answer. -/
structure Response where
  statusCode : Int
  request : Option Request
  deriving DecidableEq, Repr

/-- A frame of a failed deployment, with the frames that caused it. -/
inductive DeploymentLine where
  | line (code message : String) (inner : List (Option DeploymentLine))
  deriving Inhabited

namespace DeploymentLine

def code : DeploymentLine → String
  | line code _ _ => code

def inner : DeploymentLine → List (Option DeploymentLine)
  | line _ _ inner => inner

end DeploymentLine

/-- What an identity provider says about a refused request. -/
structure AuthPayload where
  error : String := ""
  description : String := ""
  codes : List Int := []
  timestamp : String := ""
  traceId : String := ""
  correlationId : String := ""
  deriving DecidableEq, Repr

/-- The members of a payload by name. -/
def AuthPayload.fields (p : AuthPayload) : List (String × Value) :=
  [("error", .text p.error), ("error_description", .text p.description),
   ("error_codes", .list (p.codes.map .int)), ("timestamp", .text p.timestamp),
   ("trace_id", .text p.traceId), ("correlation_id", .text p.correlationId)]

/-- What is known about a failure. -/
inductive Shape where
  | service (errorCode : String) (response : Option Response)
  | deployment (details : Option DeploymentLine)
  | tool (command : String) (exitCode : Int)
  | auth (payload : Option AuthPayload)
  | group (members : List Nat)
  | fault (f : Fault)
  | plain

structure Node where
  shape : Shape
  className : String
  /-- The module that defines the class. -/
  home : String
  /-- The general classes that the failure belongs to. -/
  classes : List String
  message : String
  cause : Option Nat := none
  context : Option Nat := none
  suppressContext : Bool := false

namespace Node

/-- Where the general classes are defined. -/
def generalHome : String := "builtins"

/-- Where the four known shapes are defined. -/
def knownHome : String := "errors"

/-- A failure of one of the known shapes, or of a class derived from it. -/
def known (className : String) (shape : Shape) (message : String) : Node where
  shape
  className
  home := knownHome
  classes := ancestors "Exception"
  message

def service (errorCode : String) (response : Option Response)
    (className : String := "ServiceResponseError") : Node :=
  let status := match response with
    | some r => s!" (status {r.statusCode})"
    | none => ""
  known className (.service errorCode response) (s!"service request failed: {errorCode}" ++ status)

def deployment (details : Option DeploymentLine) (title : String := "deployment failed") : Node :=
  known "DeploymentError" (.deployment details) title

def tool (command : String) (exitCode : Int) (errorOutput : Option String := none)
    (className : String := "ToolExitError") : Node :=
  let output := match errorOutput with
    | none | some "" => ""
    | some s => ", stderr: " ++ strip s
  known className (.tool command exitCode) (s!"exit code: {exitCode}" ++ output)

def auth (payload : Option AuthPayload) (message : String := "failed to authenticate") : Node :=
  let error := match payload with
    | some p => if p.error = "" then "" else ": " ++ p.error
    | none => ""
  known "AuthFailedError" (.auth payload) (message ++ error)

/-- The text of a failure of a general class: a missing key is quoted. -/
def generalMessage (classes : List String) (message : String) : String :=
  if classes.contains "KeyError" then quoted message else message

/-- A failure of a general class. -/
def general (className message : String) : Node where
  shape := .plain
  className := canonicalName className
  home := generalHome
  classes := ancestors className
  message := generalMessage (ancestors className) message

/-- A failure of a class of its own, derived from a general one. -/
def derived (className home base message : String) : Node where
  shape := .plain
  className
  home
  classes := ancestors base
  message := generalMessage (ancestors base) message

/-- A failure that was made of a message alone, unless its class needs more than that. -/
def checked (n : Node) : Except Fault Node :=
  match makers.find? fun m => n.classes.contains m.className with
  | some m => .error (.incompleteFailure m.name m.parts)
  | none => .ok n

def ofFault (f : Fault) : Node where
  shape := .fault f
  className := f.kind.name
  home := generalHome
  classes := ancestors f.kind.name
  message := f.message

/-- An ordinary failure is classified and reported; any other ends the program. -/
def isOrdinary (n : Node) : Bool := n.classes.contains "Exception"

/-- A group, given whether all its members are ordinary. -/
def group (allOrdinary : Bool) (message : String) (members : List Nat) : Node :=
  let className := if allOrdinary then "ExceptionGroup" else "BaseExceptionGroup"
  { shape := .group members
    className
    home := generalHome
    classes := ancestors className
    message :=
      s!"{message} ({members.length} sub-exception" ++ (if members.length = 1 then ")" else "s)") }

def members (n : Node) : List Nat :=
  match n.shape with
  | .group members => members
  | _ => []

/-- The failure that explains a failure: its cause, or else the one that was being handled. -/
def origin (n : Node) : Option Nat :=
  match n.cause with
  | some i => some i
  | none => if n.suppressContext then none else n.context

/-- The failures that a failure is linked to, in the order of the search. -/
def links (n : Node) : List Nat := n.members ++ n.origin.toList

end Node

end Failure

/-- A node of a graph of failures. Indices beyond the nodes stand for nothing. -/
structure Failure where
  nodes : List Failure.Node
  root : Nat

namespace Failure

/-- The failure itself. A graph without it stands for a failure of which nothing is known. -/
def node (f : Failure) : Node := f.nodes[f.root]?.getD (Node.general "BaseException" "")

def isOrdinary (f : Failure) : Bool := f.node.isOrdinary

def single (n : Node) : Failure := ⟨[n], 0⟩

def ofFault (f : Fault) : Failure := single (Node.ofFault f)

/-- A new failure that came up while `f` was being handled. -/
def during (f : Failure) (n : Node) : Failure :=
  ⟨f.nodes ++ [{ n with context := some f.root }], f.nodes.length⟩

/-- A new failure that `f` is the cause of. -/
def causing (f : Failure) (n : Node) : Failure :=
  f.during { n with cause := some f.root, suppressContext := true }

end Failure

end CommandTelemetry
