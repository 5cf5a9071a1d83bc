import CommandTelemetry.Script.Step

/-!
# Runs of scripts

Scripts are run one after the other in one session. Each run is reported by how it ended, what was
written into the journal meanwhile, the spans that ended meanwhile and the usage after it. The name
of the run, usage and the last trace carry over from run to run.
-/

namespace CommandTelemetry.Script

open Trace

structure Run where
  options : CommandOptions
  steps : List Step
  asChild : Bool := false
  /-- The baggage of the context that is given, if one is. -/
  baggage : Option (List (String × String)) := none

structure Report where
  outcome : Except Failure Answer
  journal : List Entry
  lastTraceId : Option String
  spans : List Span
  usage : Usage

/-- The context that a run is given. -/
def Run.context (r : Run) : Option Context := r.baggage.map ({} : Context).withBaggage

def Run.action (setup : Setup) (r : Run) : Effect Stage Answer :=
  let invocation := if r.asChild then Action.runChild else Action.run
  invocation setup.factories r.context r.options (perform setup r.steps)

/-- How a step ended, and the session after it. -/
def outcomeOf {σ α : Type} (e : Effect σ α) (s : σ) : Except Failure α × σ :=
  match e s with
  | .ok a s => (.ok a, s)
  | .error f s => (.error f, s)

/-- The report of a run and the session after it. -/
def Run.report (setup : Setup) (r : Run) (s : Stage) : Report × Stage :=
  let (outcome, after) := outcomeOf (r.action setup) s
  ({ outcome
     journal := after.own.journal.drop s.own.journal.length
     lastTraceId := after.lastTraceId
     spans := after.finished.drop s.finished.length
     usage := setup.usage after }, after)

def reports (setup : Setup) : List Run → Stage → List Report
  | [], _ => []
  | r :: rest, s =>
    let (report, s) := r.report setup s
    report :: reports setup rest s

end CommandTelemetry.Script
