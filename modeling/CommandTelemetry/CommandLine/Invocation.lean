import CommandTelemetry.CommandLine.Binding
import CommandTelemetry.CommandLine.Grammar
import CommandTelemetry.Label.Command

/-!
# Invocations

A command line is read as an invocation: a command with its binding, or a request for help or for
the version. Middleware is told the path of registered names, the flags that were given, and the
words that were given by position; no value of a flag is part of that.
-/

namespace CommandTelemetry.CommandLine

open Label

inductive Target (α : Type) where
  | help
  | version
  | command (c : Command α)

namespace Target

variable {α : Type}

def name : Target α → String
  | help => "help_print"
  | version => "version_print"
  | command c => c.name

/-- The parameters that the command line does not fill. -/
def injected : Target α → List Parameter
  | command c => c.injected
  | _ => []

end Target

structure Invocation (α : Type) where
  path : List String
  target : Target α
  binding : Binding := []

/-- The words that ask for help anywhere before the end of the options. -/
def helpOptions : List String := ["--help", "-h"]

/-- The last word of a path that ends at a request for help. -/
def helpName : String := "help-print"

/-- The last word of a path that ends at a request for the version. -/
def versionName : String := "version-print"

def asksForHelp (words : List String) : Bool :=
  (words.takeWhile (· ≠ endOfOptions)).any (helpOptions.contains ·)

/-- The first word is one of these. -/
def startsWith (options words : List String) : Bool :=
  match words with
  | w :: _ => options.contains w
  | [] => false

namespace Invocation

variable {α : Type}

def ofWords (g : Grammar α) (env : Environment) (words : List String) :
    Except Refusal (Invocation α) :=
  let place := g.locate words
  if asksForHelp words then
    let last := if startsWith helpOptions place.rest then [helpName] else []
    .ok { path := place.path ++ last, target := .help }
  else if place.path.isEmpty && startsWith g.versionOptions place.rest then
    .ok { path := [versionName], target := .version }
  else
    match place.command with
    | some c =>
      (Binding.ofWords env c.parameters place.rest).map fun binding =>
        { path := place.path, target := .command c, binding }
    | none =>
      if place.rest.isEmpty then .ok { path := place.path, target := .help }
      else .error .unknownCommand

/-- What telemetry is told about an invocation. -/
def options (i : Invocation α) : CommandOptions where
  path := " ".intercalate (programName :: i.path)
  flags := some i.binding.flags
  words := i.binding.words.map .text

end Invocation

end CommandTelemetry.CommandLine
