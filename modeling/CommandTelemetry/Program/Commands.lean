import CommandTelemetry.Program.Exec
import CommandTelemetry.Program.Report

/-!
# The commands of the program

The program reports its version, reports its settings, and runs tools.
-/

namespace CommandTelemetry.Program

open CommandLine

variable {ε : Type}

/-- The parameter that takes the context of the run. -/
def contextParameter : Parameter where
  label := "run_context"
  slot := .named
  isInjected := true

def versionCommand : Command (Behaviour ε) where
  name := "version_command"
  parameters := [contextParameter]
  behaviour call := showVersion call.context

def settingsCommand : Command (Behaviour ε) where
  name := "show_telemetry_config"
  parameters := [contextParameter]
  behaviour call := showSettings call.context

def toolParameter : Parameter where
  label := "tool"
  slot := .positional
  isRequired := true

def wordsParameter : Parameter where
  label := "args"
  slot := .restWords
  takesHyphens := true

def directoryParameter : Parameter where
  label := "cwd"
  slot := .named
  names := ["--cwd"]
  kind := .path

def execCommand : Command (Behaviour ε) where
  name := "exec_command"
  parameters := [toolParameter, wordsParameter, directoryParameter]
  behaviour call :=
    runTool ((call.binding.values toolParameter.label).head?.getD "")
      (call.binding.values wordsParameter.label)
      (call.binding.values directoryParameter.label).head?

/-- The grammar of the program's command line. -/
def grammar : Grammar (Behaviour ε) where
  entries :=
    [.command "exec" [] execCommand,
     .command "version" ["v"] versionCommand,
     .group "telemetry" [] [.command "show" [] settingsCommand]]
  versionOptions := ["--version", "-V"]

end CommandTelemetry.Program
