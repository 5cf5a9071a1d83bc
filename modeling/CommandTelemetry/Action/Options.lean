import CommandTelemetry.Value.Basic

/-!
# Options of an invocation

What middleware is told about an invocation: the path of the command, which of its flags the caller
set, and the values that were given by position. The values of flags are not part of it, and of
those given by position telemetry reports the number only.
-/

namespace CommandTelemetry

/-- A declared flag, and whether the caller set it. -/
structure Flag where
  name : String
  changed : Bool := false
  deriving DecidableEq, Repr

/-- The flags of a command in the order of their declarations. -/
abbrev FlagSet := List Flag

def FlagSet.changedNames (flags : FlagSet) : List String :=
  (flags.filter (·.changed)).map (·.name)

structure CommandOptions where
  /-- The names of the command and of what stands above it, separated by spaces. -/
  path : String
  flags : Option FlagSet := none
  /-- The values that were given by position. -/
  words : List Value := []
  /-- The invocation runs inside another command. -/
  isChild : Bool := false

/-- How many values were given by position. -/
def CommandOptions.wordCount (options : CommandOptions) : Nat := options.words.length

end CommandTelemetry
