import CommandTelemetry.CommandLine.Parameter

/-!
# Grammars of command lines

A program has commands, which may stand in groups. A command or a group has a registered name and
may have aliases; a path lists registered names only, so that it does not show how a command was
called. What a command does is left open here.
-/

namespace CommandTelemetry.CommandLine

structure Command (α : Type) where
  /-- What the command calls itself. -/
  name : String
  parameters : List Parameter := []
  behaviour : α

/-- The parameters whose values come from the caller. -/
def Command.injected {α : Type} (c : Command α) : List Parameter :=
  c.parameters.filter (·.isInjected)

/-- A command or a group, under its registered name and its aliases. -/
inductive Entry (α : Type) where
  | command (name : String) (aliases : List String) (c : Command α)
  | group (name : String) (aliases : List String) (entries : List (Entry α))

namespace Entry

variable {α : Type}

def name : Entry α → String
  | command name .. | group name .. => name

def answersTo (e : Entry α) (word : String) : Bool :=
  match e with
  | command name aliases _ | group name aliases _ => name = word || aliases.contains word

end Entry

structure Grammar (α : Type) where
  entries : List (Entry α)
  /-- The options that ask for the version, before any command. -/
  versionOptions : List String := ["--version"]

/-- Where the command words of a command line lead. -/
structure Place (α : Type) where
  /-- The registered names on the way. -/
  path : List String
  /-- The command, unless the way ends at a group or at the program itself. -/
  command : Option (Command α)
  /-- The words behind the command words. -/
  rest : List String

namespace Grammar

variable {α : Type}

/-- Follows command words as far as they lead. -/
def follow (entries : List (Entry α)) : List String → Place α
  | [] => ⟨[], none, []⟩
  | w :: words =>
    match entries.find? (·.answersTo w) with
    | none => ⟨[], none, w :: words⟩
    | some (.command name _ c) => ⟨[name], some c, words⟩
    | some (.group name _ inner) =>
      let place := follow inner words
      { place with path := name :: place.path }

def locate (g : Grammar α) (words : List String) : Place α := follow g.entries words

end Grammar

end CommandTelemetry.CommandLine
