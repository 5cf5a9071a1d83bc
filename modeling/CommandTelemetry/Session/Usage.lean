import CommandTelemetry.Value.Basic

/-!
# Usage

Subsystems record facts about their use while a command runs. A fact is a value under a name, and a
name that is there keeps its place when its value is replaced. What was read off is a value of its
own: nobody who holds it sees or makes later changes.
-/

namespace CommandTelemetry

/-- Facts about use, in the order in which their names were first recorded. -/
abbrev Usage := List (Value × Value)

namespace Usage

def set (u : Usage) (name value : Value) : Usage := Value.insertEntry u name value

def update (u : Usage) (facts : List (Value × Value)) : Usage :=
  facts.foldl (fun u f => u.set f.1 f.2) u

end Usage

end CommandTelemetry
