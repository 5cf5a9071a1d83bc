import CommandTelemetry.Fault
import CommandTelemetry.Log.Record
import CommandTelemetry.Log.Template
import CommandTelemetry.Text.Uppercase

/-!
# Root of the loggers

Every record ends at the root of the loggers, which drops those below its level and hands the others
to its handlers. Telemetry configures the root once: where there is no handler yet, it adds one with
a format of its own and sets the level. In any case it makes all handlers stamp records with the
identity of the active span.
-/

namespace CommandTelemetry.Log

open Text

/-- The level that a record must have at least. -/
inductive Threshold where
  /-- All records pass. -/
  | everything
  | atLeast (level : Level)
  deriving DecidableEq, Repr

namespace Threshold

def name : Threshold → String
  | everything => "NOTSET"
  | atLeast level => level.name

/-- The threshold of a name in capital letters. -/
def ofName? (name : String) : Option Threshold :=
  match name with
  | "NOTSET" => some everything
  | "DEBUG" => some (atLeast .debug)
  | "INFO" => some (atLeast .info)
  | "WARNING" | "WARN" => some (atLeast .warning)
  | "ERROR" => some (atLeast .error)
  | "CRITICAL" | "FATAL" => some (atLeast .critical)
  | _ => none

end Threshold

/-- The number that stands for a level. -/
def Level.number : Level → Nat
  | debug => 10
  | info => 20
  | warning => 30
  | error => 40
  | critical => 50

def Threshold.admits (t : Threshold) (level : Level) : Bool :=
  match t with
  | everything => true
  | atLeast least => least.number ≤ level.number

structure Handler where
  format : String
  /-- Records are stamped with the identity of the active span. -/
  stamps : Bool := false
  deriving DecidableEq, Repr

/-- The format that writes the message only. -/
def plainFormat : String := "%(message)s"

/-- The format that telemetry uses where no other is asked for. -/
def traceFormat : String :=
  "%(asctime)s %(levelname)s [trace_id=%(trace_id)s] %(name)s: %(message)s"

structure Root where
  threshold : Threshold := .atLeast .warning
  handlers : List Handler := []
  deriving DecidableEq, Repr

/-- A record before its message is put together. -/
structure Emission where
  level : Level
  logger : String
  template : String
  values : List Value := []
  /-- The time as it is written. -/
  time : String
  /-- The identifiers of the trace and the span that are active, if there are any. -/
  active : Option (String × String) := none

namespace Root

/-- A format is usable if it takes some value by name. -/
def checkFormat (format : String) : Except Fault Unit :=
  if takesNamed format.toList then .ok ()
  else .error (.badLogFormat s!"Invalid format '{format}' for '%' style")

/-- An empty format stands for the plain one. -/
def formatOr (format : String) : String := if format = "" then plainFormat else format

/-- The root with a first handler, and what may go wrong with it. The handler is there before the
level is looked at. -/
def begin (r : Root) (level format : String) : Root × Except Fault Unit :=
  if !r.handlers.isEmpty then (r, .ok ())
  else
    match checkFormat (formatOr format) with
    | .error f => (r, .error f)
    | .ok () =>
      let r := { r with handlers := [{ format := formatOr format }] }
      match Threshold.ofName? level with
      | some threshold => ({ r with threshold }, .ok ())
      | none => (r, .error (.unknownLevel level))

/-- Configures the root for telemetry. -/
def configure (r : Root) (level : String) (format : String := traceFormat) :
    Root × Except Fault Unit :=
  match r.begin (upper level) format with
  | (r, .error f) => (r, .error f)
  | (r, .ok ()) => ({ r with handlers := r.handlers.map ({ · with stamps := true }) }, .ok ())

/-- The value that a format takes by a name. -/
def field? (e : Emission) (stamps : Bool) (message : String) (name : String) : Option Value :=
  let stamp (text : Option String) : Option Value :=
    if stamps then some ((text.map Value.text).getD .null) else none
  match name with
  | "asctime" => some (.text e.time)
  | "levelname" => some (.text e.level.name)
  | "levelno" => some (.int e.level.number)
  | "name" => some (.text e.logger)
  | "message" => some (.text message)
  | "msg" => some (.text e.template)
  | "trace_id" => stamp (e.active.map (·.1))
  | "span_id" => stamp (e.active.map (·.2))
  | _ => none

/-- The line that a handler writes; nothing if the record or the format is spoiled. -/
def line? (e : Emission) (h : Handler) : Option String := do
  let message ← message? e.template e.values
  return (← fillByName? h.format (field? e h.stamps message)) ++ "\n"

/-- The handler that stands in where there is none: it admits warnings. -/
def standIn (level : Level) : List Handler :=
  if (Threshold.atLeast .warning).admits level then [{ format := plainFormat }] else []

/-- What is written for a record; nothing if a handler fails on it. -/
def emit? (r : Root) (e : Emission) : Option String :=
  if r.threshold.admits e.level then
    let handlers := if r.handlers.isEmpty then standIn e.level else r.handlers
    (handlers.mapM (line? e)).map String.join
  else some ""

end Root

end CommandTelemetry.Log
