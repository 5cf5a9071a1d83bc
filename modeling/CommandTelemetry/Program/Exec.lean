import CommandTelemetry.Program.Context

/-!
# Running tools

The command that runs a tool hands on its words unchanged. What it records about that is the label
of the tool and, if the tool fails, its status: the words and the path of the tool stay out of
telemetry. A tool that is not installed counts as failed.
-/

namespace CommandTelemetry.Program

open Failure

variable {ε : Type}

def execLogger : String := "cli.commands.tool"

/-- The status of a tool that is not installed. -/
def notInstalled : Int := 127

/-- The components of a path, without those that stand for where they are. -/
def pathComponents (path : List Char) : List (List Char) :=
  (Text.splitOn ['/'] path).filter fun c => c ≠ [] && c ≠ ['.']

/-- The root that a path starts at: one slash, or exactly two. -/
def pathRoot (path : List Char) : List Char :=
  match path.takeWhile (· = '/') with
  | [] => []
  | ['/', '/'] => ['/', '/']
  | _ => ['/']

/-- A path without repetitions; the empty path stands for where it is. -/
def plainPath (path : String) : String :=
  let path := path.toList
  let plain := pathRoot path ++ ['/'].intercalate (pathComponents path)
  String.ofList (if plain = [] then ['.'] else plain)

/-- Records which tool is invoked. -/
def noteTool (tool : String) : Effect (Session ε) Unit :=
  modify fun s =>
    { s with
      usage := s.usage.set (.text AttributeName.toolInvoked.key) (.text (toolLabel tool)) }

def readClock : Effect (Session ε) Float := fun s =>
  match s.host.clock with
  | [] => .ok 0.0 s
  | t :: rest => .ok t { s with host := { s.host with clock := rest } }

/-- Starts a tool and waits for its end. -/
def start (command : List String) (directory : Option String) : Effect (Session ε) ToolRun :=
  fun s =>
    .ok (s.host.run (command.head?.getD ""))
      { s with starts := s.starts ++ [⟨command, directory⟩] }

/-- What is started for a tool: where it is installed, or else the tool as it is named. -/
def executable (host : Host) (tool : String) : String :=
  match host.locate tool with
  | none | some "" => tool
  | some path => path

def notFoundFailure (tool : String) : Failure :=
  (Failure.single (Node.general "FileNotFoundError" "")).causing (Node.tool tool notInstalled)

def notPermittedFailure : Failure := Failure.single (Node.general "PermissionError" "")

/-- The time between two readings of the clock, in milliseconds. -/
def durationBetween (started ended : Float) : Float := (ended - started) * 1000.0

/-- Runs a tool; it fails unless the tool ends with the status zero. -/
def runTool (tool : String) (words : List String) (directory : Option String) :
    Effect (Session ε) Answer := do
  noteTool tool
  let message := s!"Running external tool with {words.length} argument(s)."
  Session.take ⟨(), [⟨.debug, execLogger, message⟩]⟩
  let path := executable (← get).host tool
  let started ← readClock
  match ← start (path :: words) (directory.map plainPath) with
  | .notFound => throw (notFoundFailure tool)
  | .notPermitted => throw notPermittedFailure
  | .exited status =>
    let ended ← readClock
    if status = 0 then
      let duration := durationBetween started ended
      pure (.result (ActionResult.success none [("duration_ms", .float duration)]))
    else throw (Failure.single (Node.tool tool status))

end CommandTelemetry.Program
