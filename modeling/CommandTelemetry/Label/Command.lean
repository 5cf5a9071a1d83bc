import CommandTelemetry.Text.Blank

/-!
# Span names of commands

A command path lists the names of a command and of the groups around it, starting with the program.
Its span is named by the same words without the program's, joined by periods.
-/

namespace CommandTelemetry.Label

open Text

def programName : String := "cmdtrace"

/-- The words of a command path without the program's name at the front. -/
def commandWords (root path : String) : List String :=
  match words path with
  | [] => []
  | first :: rest => if first = root then rest else first :: rest

/-- The span name of a command path. -/
def spanName (path : String) (root : String := programName) : String :=
  ".".intercalate ("cmd" :: commandWords root path)

end CommandTelemetry.Label
