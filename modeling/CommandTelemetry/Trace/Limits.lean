import CommandTelemetry.Setting.Environment

/-!
# Limits of spans

How many attributes a span holds and how long their texts may be. A limit that is given goes before
the variables, where minus one means that there is none. The variables are read strictly here: a
blank text means that there is no limit, and any other text that is no natural number is refused.
Some variables are looked at although what they say is not needed, such as the general limit where a
limit is given, or the limits of events and links, of which the spans here have none.
-/

namespace CommandTelemetry.Trace

open Text Numeral

structure Limits where
  attributes : Option Nat
  textLength : Option Nat
  deriving DecidableEq, Repr

namespace Limits

def generalCount : String := "OTEL_ATTRIBUTE_COUNT_LIMIT"

def spanCount : String := "OTEL_SPAN_ATTRIBUTE_COUNT_LIMIT"

def generalLength : String := "OTEL_ATTRIBUTE_VALUE_LENGTH_LIMIT"

def spanLength : String := "OTEL_SPAN_ATTRIBUTE_VALUE_LENGTH_LIMIT"

/-- The limits on how many events and links a span has. -/
def eventAndLinkCounts : List String :=
  ["OTEL_SPAN_EVENT_COUNT_LIMIT", "OTEL_SPAN_LINK_COUNT_LIMIT"]

/-- The limits on how many attributes an event or a link has. -/
def eventAndLinkAttributes : List String :=
  ["OTEL_EVENT_ATTRIBUTE_COUNT_LIMIT", "OTEL_LINK_ATTRIBUTE_COUNT_LIMIT"]

/-- The number of attributes of a span where nothing else is said. -/
def usualCount : Nat := 128

def natural (name : String) (n : Int) : Except Fault (Option Nat) :=
  if n < 0 then .error (.badLimit name (toString n)) else .ok (some n.toNat)

/-- A limit that is given; `name` is the variable that it stands for. -/
def ofGiven (name : String) (n : Int) : Except Fault (Option Nat) :=
  if n = -1 then .ok none else natural name n

/-- What a variable says, or `unset` where it is not there. -/
def ofVariable (env : Environment) (name : String) (unset : Option Nat) :
    Except Fault (Option Nat) :=
  match env.get? name with
  | none => .ok unset
  | some raw =>
    let text := lower (strip raw)
    if text = "" then .ok none
    else
      match readInteger text with
      | .integer n => natural name n
      | _ => .error (.badLimit name text)

/-- Looks at variables only to refuse what cannot be read. -/
def check (env : Environment) (names : List String) : Except Fault Unit :=
  forM names fun name => discard (ofVariable env name none)

/-- How many attributes a span holds, where `general` is what the general limit says. -/
def countOf (env : Environment) (general : Option Nat) :
    Option Int → Except Fault (Option Nat)
  | some n => ofGiven spanCount n
  | none => ofVariable env spanCount (some (general.getD usualCount))

/-- How long a text may be, before the limit for spans is looked at. -/
def lengthOf (env : Environment) : Option Int → Except Fault (Option Nat)
  | some n => ofGiven generalLength n
  | none => ofVariable env generalLength none

def resolve (env : Environment) (count length : Option Int) : Except Fault Limits := do
  check env eventAndLinkCounts
  let general ← ofVariable env generalCount none
  let attributes ← countOf env general count
  check env eventAndLinkAttributes
  let textLength ← ofVariable env spanLength (← lengthOf env length)
  pure ⟨attributes, textLength⟩

end Limits

end CommandTelemetry.Trace
