import CommandTelemetry.Trace.Context
import CommandTelemetry.Trace.Limits

/-!
# Spans

A span has an identity, a name, the scope that opened it, attributes and a status. One that does not
record has an identity only. Attributes stand in the order in which they were last written; when the
span is full, the oldest one makes room for a new one. An exit code is taken as the integer that it
is, but a list with an exit code in it is not taken at all.
-/

namespace CommandTelemetry.Trace

open Text Attribute

inductive Status where
  | unset
  | error (description : String)
  deriving DecidableEq, Repr

structure Span where
  context : SpanContext
  /-- The identifier of the span above. -/
  parent : Option Nat
  name : String
  scope : String
  scopeVersion : String
  limits : Limits
  isRecording : Bool
  attributes : Attributes := []
  status : Status := .unset

mutual

/-- A value with its texts cut to a length. -/
def cutValue (length : Nat) : Value → Value
  | .text s => .text (takeChars length s)
  | .list items | .tuple items => .list (cutItems length items)
  | .mapping entries => .mapping (cutEntries length entries)
  | v => v

def cutItems (length : Nat) : List Value → List Value
  | [] => []
  | v :: vs => cutValue length v :: cutItems length vs

def cutEntries (length : Nat) : List (Value × Value) → List (Value × Value)
  | [] => []
  | (k, v) :: rest => (k, cutValue length v) :: cutEntries length rest

end

/-- A list with an exit code in it, which no span takes. -/
def isRefused : Value → Bool
  | .list items | .tuple items => items.any (·.isExit)
  | _ => false

namespace Span

/-- Writes an attribute to the newest place. An empty key is no key. -/
def store (limits : Limits) (attrs : Attributes) (k : String) (v : Value) : Attributes :=
  let v := match limits.textLength with
    | some n => cutValue n v
    | none => v
  if k = "" || isRefused v then attrs
  else if limits.attributes = some 0 then attrs
  else if attrs.any (·.1 = k) then attrs.filter (·.1 ≠ k) ++ [(k, v)]
  else if limits.attributes = some attrs.length then attrs.drop 1 ++ [(k, v)]
  else attrs ++ [(k, v)]

def setAttribute (span : Span) (k : String) (v : Value) : Span :=
  if span.isRecording then
    { span with attributes := store span.limits span.attributes k v }
  else span

def setAttributes (span : Span) (attrs : Attributes) : Span :=
  attrs.foldl (fun s e => s.setAttribute e.1 e.2) span

def setError (span : Span) (description : String) : Span :=
  if span.isRecording then { span with status := .error description } else span

/-- Writes the normal forms that attributes have under these settings. -/
def record (settings : Settings) (span : Span) (entries : List (Value × Value)) :
    Except Fault (Logged Span) :=
  (normalize settings entries).map fun attrs => attrs.map span.setAttributes

end Span

end CommandTelemetry.Trace
