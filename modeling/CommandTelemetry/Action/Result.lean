import CommandTelemetry.Value.Integer

/-!
# Results of actions

An action answers with nothing, with a result, or with any other value. Rendering turns an answer
into lines for people and an exit code: nothing and success alike are zero, a number is its own
exit code, and a result prints its summary and its duration.
-/

namespace CommandTelemetry

open Numeral

structure ActionResult where
  exitCode : Value := .exit .success
  summary : Option String := none
  metrics : List (String × Value) := []
  traceId : Option String := none

namespace ActionResult

def success (summary : Option String := none) (metrics : List (String × Value) := []) :
    ActionResult where
  summary
  metrics

def error (exitCode : Value) (summary : Option String := none) : Except Fault ActionResult := do
  let n ← exitCode.toInteger
  pure { exitCode := .int n, summary }

def withTraceId (r : ActionResult) (traceId : String) : ActionResult :=
  { r with traceId := some traceId }

def isOk (r : ActionResult) : Bool := Value.same r.exitCode (.exit .success)

end ActionResult

inductive Answer where
  | nothing
  | result (r : ActionResult)
  | value (v : Value)

/-- What was printed for an answer, and how rendering ended. -/
structure Rendering where
  lines : List String
  outcome : Except Fault Int

namespace Answer

def ofValue : Value → Answer
  | .null => nothing
  | v => value v

/-- A number with one decimal place. -/
def decimalText (v : Value) : Except Fault String :=
  match v.toFloat? with
  | .error f => .error f
  | .ok (some x) => .ok (oneDecimal x)
  | .ok none =>
    match v with
    | .text _ => .error (.notANumber v.typeName)
    | _ => .error (.unformattable v.typeName)

/-- The line for a duration, if the metrics hold one. -/
def durationLine (metrics : List (String × Value)) : Except Fault (List String) :=
  match metrics.lookup "duration_ms" with
  | none | some .null => .ok []
  | some v => (decimalText v).map fun s => [s!"Duration: {s}ms"]

def renderResult (r : ActionResult) : Rendering :=
  let summary := match r.summary with
    | none | some "" => []
    | some s => [s]
  match durationLine r.metrics with
  | .error f => ⟨summary, .error f⟩
  | .ok duration => ⟨summary ++ duration, r.exitCode.toInteger⟩

def unexpectedLine (v : Value) : String := s!"Unexpected command return type: {v.typeName}"

def render : Answer → Rendering
  | nothing => ⟨[], .ok ExitCode.success.number⟩
  | value (.bool b) =>
    ⟨[], .ok (if b then ExitCode.success.number else ExitCode.generalError.number)⟩
  | value v =>
    match v.asInt? with
    | some n => ⟨[], .ok n⟩
    | none => ⟨[unexpectedLine v], .ok ExitCode.generalError.number⟩
  | result r => renderResult r

/-- The answer of a command: a number becomes the exit code of a result, and any other bare value
is refused. -/
def ofCommand : Answer → Except Fault Answer
  | value v =>
    if v.asInt?.isSome then .ok (result { exitCode := v }) else .error (.unexpectedReturn v.typeName)
  | a => .ok a

end Answer

end CommandTelemetry
