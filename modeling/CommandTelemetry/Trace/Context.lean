import CommandTelemetry.Attribute.Normalize

/-!
# Contexts

A context carries the identity of the active span and baggage: entries that spans opened further
down inherit. Baggage is known by its texts, whatever it was that others put there. Whatever else a
context carries is passed on as it is. Contexts are values. Setting baggage yields a new context,
and whoever holds the old one keeps it as it was.
-/

namespace CommandTelemetry.Trace

open Text Attribute

/-- The identity of a span. Zero is no identifier. -/
structure SpanContext where
  traceId : Nat := 0
  spanId : Nat := 0
  sampled : Bool := false
  deriving DecidableEq, Repr

namespace SpanContext

def isValid (c : SpanContext) : Bool := c.traceId ≠ 0 && c.spanId ≠ 0

/-- The trace identifier in 32 hexadecimal digits. -/
def traceText (c : SpanContext) : String := hex 32 c.traceId

/-- The span identifier in 16 hexadecimal digits. -/
def spanText (c : SpanContext) : String := hex 16 c.spanId

end SpanContext

structure Context where
  /-- The active span; one without valid identifiers stands for none. -/
  active : SpanContext := {}
  baggage : List (String × String) := []
  /-- What else the context carries, by key. -/
  carried : List (String × Value) := []

namespace Context

/-- Entries as texts. The first text that cannot be had decides. -/
def texts : List (Value × Value) → Except Fault (List (String × String))
  | [] => .ok []
  | (k, v) :: rest => do
    let name ← k.display
    let s ← v.display
    let others ← texts rest
    return (name, s) :: others

/-- The context with further baggage. -/
def withBaggage (c : Context) (entries : List (String × String)) : Context :=
  { c with baggage := entries.foldl (fun b e => put b e.1 e.2) c.baggage }

/-- The baggage in the form in which spans are given it. -/
def baggageAttributes (c : Context) : Attributes := c.baggage.map fun e => (e.1, .text e.2)

def withActive (c : Context) (span : SpanContext) : Context := { c with active := span }

end Context

/-- What hands a part of a context on to another program. -/
inductive Propagator where
  | traceContext
  | baggage
  deriving DecidableEq, Repr

end CommandTelemetry.Trace
