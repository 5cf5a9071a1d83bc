import CommandTelemetry.Failure.Classification

/-!
# Refused command lines

Why a command line is refused. A refusal is a failure like any other, of a class of the parser, so
that its exit code follows from the one rule for all failures.
-/

namespace CommandTelemetry.CommandLine

inductive Refusal where
  /-- A word where a command is expected names none. -/
  | unknownCommand
  | unknownOption
  /-- Words are left over. -/
  | unusedWords
  /-- An argument or the value of an option is missing. -/
  | missingArgument
  /-- An option that takes one value is given twice. -/
  | repeatedOption
  /-- A value is not of the kind that is asked for. -/
  | badValue
  /-- A value is outside of its bounds. -/
  | outOfBounds
  /-- A value is given by position behind one that is given by name. -/
  | wrongOrder
  deriving DecidableEq, Repr

namespace Refusal

/-- The class of the failure. -/
def name : Refusal → String
  | unknownCommand => "UnknownCommandError"
  | unknownOption => "UnknownOptionError"
  | unusedWords => "UnusedCliTokensError"
  | missingArgument => "MissingArgumentError"
  | repeatedOption => "RepeatArgumentError"
  | badValue => "CoercionError"
  | outOfBounds => "ValidationError"
  | wrongOrder => "ArgumentOrderError"

def failure (r : Refusal) : Failure :=
  Failure.single (Failure.Node.derived r.name Failure.parserHome "Exception" "")

def exitCode (r : Refusal) : ExitCode := r.failure.exitCode

end Refusal

end CommandTelemetry.CommandLine
