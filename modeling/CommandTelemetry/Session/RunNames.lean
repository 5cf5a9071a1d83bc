import CommandTelemetry.Fault

/-!
# Names of the run

The current run has a name. Whoever names it gets a token, which gives back the name from before
and can be used once. Tokens may be used in any order.
-/

namespace CommandTelemetry

structure RunNames where
  current : Option String := none
  /-- What each token gives back, the first one first; a used token gives back nothing. -/
  tokens : List (Option (Option String)) := []
  deriving DecidableEq, Repr

namespace RunNames

/-- Names the run and issues the next token. -/
def rename (r : RunNames) (id : String) : RunNames :=
  { current := some id, tokens := r.tokens ++ [some r.current] }

/-- Uses a token. -/
def restore (r : RunNames) (token : Nat) : Except Fault RunNames :=
  match r.tokens[token]? with
  | some (some before) => .ok { current := before, tokens := r.tokens.set token none }
  | _ => .error .tokenUsed

end RunNames

end CommandTelemetry
