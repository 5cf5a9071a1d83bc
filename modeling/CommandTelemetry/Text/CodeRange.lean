/-!
# Ranges of code points

A property of characters is kept as a list of closed ranges of code points, ascending and apart.
-/

namespace CommandTelemetry.Text

/-- A closed range of code points. -/
abbrev CodeRange := Nat × Nat

def inRanges (rs : List CodeRange) (n : Nat) : Bool :=
  rs.any fun r => r.1 ≤ n && n ≤ r.2

end CommandTelemetry.Text
