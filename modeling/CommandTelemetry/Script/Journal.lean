import CommandTelemetry.Action.Chain

/-!
# Journals

A script is an action that is given as data, and what happens while it runs is written into a
journal. The journal belongs to the caller's part of the session, together with usage that is kept
apart from that of the process.
-/

namespace CommandTelemetry.Script

open Trace

/-- What a step sees of the session that it runs in. -/
structure View where
  /-- The baggage of the context that is passed to the action, if one is. -/
  passed : Option Attribute.Attributes
  /-- The baggage of the current context. -/
  current : Attribute.Attributes
  runId : Option String
  lastTraceId : Option String
  /-- The active span, if there is one. -/
  active : Option SpanContext

inductive Entry where
  /-- A recorder is entered. -/
  | entered (name path : String) (isChild : Bool)
  /-- A recorder is left with an answer. -/
  | left (name : String)
  /-- A recorder sees a failure of this class. -/
  | failed (name className : String)
  /-- An invocation inside the script has answered. -/
  | answered (a : Answer)
  /-- An invocation inside the script has failed, and the script goes on. -/
  | caught (className : String)
  /-- A span of this trace was opened and has ended. -/
  | spanned (traceId : String)
  | viewed (v : View)
  /-- A command is called with these arguments. -/
  | called (command : String) (arguments : List (String × Value))

/-- What scripts keep in a session of their own. -/
structure Notebook where
  journal : List Entry := []
  /-- Usage that is kept apart from that of the process. -/
  usage : Usage := []
  /-- The names that the run had before, the last one first. -/
  earlierRuns : List (Option String) := []

/-- The sessions that scripts run in. -/
abbrev Stage := Session Notebook

namespace Stage

def view (s : Stage) (ctx : Option Context) : View where
  passed := ctx.map (·.baggageAttributes)
  current := s.current.baggageAttributes
  runId := s.runId
  lastTraceId := s.lastTraceId
  active := if s.current.active.isValid then some s.current.active else none

end Stage

/-- Writes an entry into the journal. -/
def write (e : Entry) : Effect Stage Unit :=
  modify fun s => { s with own := { s.own with journal := s.own.journal ++ [e] } }

end CommandTelemetry.Script
