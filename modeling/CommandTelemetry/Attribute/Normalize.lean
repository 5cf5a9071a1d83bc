import CommandTelemetry.Setting.Environment
import CommandTelemetry.Value.Canonical

/-!
# Normal attributes

Facts of any kind are reduced to what a span accepts before they are recorded: a scalar, or a list
of scalars of one kind. Absent values are dropped. A value whose key looks sensitive is masked and
never looked at. Where a limit on the number of attributes applies, the first keys by code point
are kept.

The result is a fixed point: it consists of scalars and of lists of one kind, so a second pass with
the same settings changes nothing.
-/

namespace CommandTelemetry.Attribute

open Text Numeral

/-- Attributes by key, in the order in which the keys were first written. -/
abbrev Attributes := List (String × Value)

/-- Writes an attribute: a key that is there keeps its place. -/
def put {α : Type} (attrs : List (String × α)) (k : String) (v : α) : List (String × α) :=
  match attrs with
  | [] => [(k, v)]
  | e :: rest => if e.1 = k then (k, v) :: rest else e :: put rest k v

structure Settings where
  /-- The most attributes to keep. -/
  countLimit : Option Int := none
  /-- The most characters of a text to keep. -/
  lengthLimit : Option Int := none
  /-- A key that contains one of these in lower case is sensitive. -/
  redactKeys : List String
  deriving Repr

def usualRedactKeys : List String :=
  ["authorization", "cookie", "password", "secret", "token", "api_key"]

/-- Without limits, with the usual sensitive keys. -/
def usualSettings : Settings where
  redactKeys := usualRedactKeys

/-- One text stands somewhere inside another. -/
def occursIn (part : List Char) : List Char → Bool
  | [] => part.isEmpty
  | c :: rest => part.isPrefixOf (c :: rest) || occursIn part rest

def isSensitive (redactKeys : List String) (key : String) : Bool :=
  redactKeys.any fun part => occursIn part.toList (lowerChars key.toList)

def cut (limit : Option Int) (s : String) : String :=
  match limit with
  | none => s
  | some n => takeChars n.toNat s

/-- What stands in place of a sensitive value. -/
def mask : String := "[redacted]"

/-- Numbers of both kinds in one list become floating-point numbers. -/
def floats (items : List Value) : Except Fault (List Value) :=
  items.mapM fun v => do
    match ← v.toFloat? with
    | some x => pure (.float x)
    | none => pure v

/-- Texts from a list, cut to the limit. The first one that cannot be had decides. -/
def cutTexts (limit : Option Int) : List (Except Fault String) → Except Fault (List Value)
  | [] => .ok []
  | t :: ts => do
    let s ← t
    let rest ← cutTexts limit ts
    return .text (cut limit s) :: rest

/-- A list of one kind: all truth values, all integers, all numbers, or the texts of all. Absent
items are left out. -/
def normalizeItems (limit : Option Int) (items : List Value) : Except Fault (List Value) :=
  let items := items.filter (!·.isNull)
  if items.all (·.isBool) then .ok items
  else if items.all (·.isInteger) then .ok items
  else if items.all fun v => v.isInteger || v.isFloat then floats items
  else cutTexts limit (items.map (·.display))

/-- The form in which a value is offered to a span. -/
def normalizeValue (limit : Option Int) : Value → Except Fault Value
  | .text s => .ok (.text (cut limit s))
  | .bool b => .ok (.bool b)
  | .int n => .ok (.int n)
  | .exit c => .ok (.exit c)
  | .float x => .ok (.float x)
  | .mapping entries => (Value.mapping entries).canonicalText.map fun s => .text (cut limit s)
  | .view type label => (Value.view type label).canonicalText.map fun s => .text (cut limit s)
  | .knot fault _ => .error fault
  | .list items | .tuple items => (normalizeItems limit items).map .list
  | .range start stop => (normalizeItems limit (Value.rangeItems start stop)).map .list
  | .sequence _ items stop _ =>
    match stop with
    | some fault => .error fault
    | none => (normalizeItems limit items).map .list
  | .ring _ items _ _ => (cutTexts limit items).map .list
  | v => v.display.map fun s => .text (cut limit s)

def addEntry (settings : Settings) (attrs : Attributes) (entry : Value × Value) :
    Except Fault Attributes :=
  if entry.2.isNull then .ok attrs
  else do
    let key ← entry.1.display
    if isSensitive settings.redactKeys key then
      return put attrs key (.text (cut settings.lengthLimit mask))
    else
      let v ← normalizeValue settings.lengthLimit entry.2
      return put attrs key v

def normalizeAll (settings : Settings) (entries : List (Value × Value)) :
    Except Fault Attributes :=
  entries.foldlM (addEntry settings) []

def logger : String := "obs.otel.attributes"

def droppedMessage (limit : Int) (dropped : List String) : String :=
  s!"Dropped {dropped.length} span attribute(s) over the count limit of {limit}: "
    ++ "[" ++ ", ".intercalate (dropped.map quoted) ++ "]"

def keyLE (a b : String × Value) : Bool := a.1 ≤ b.1

/-- The attributes with the first keys, as many as the limit allows. -/
def select (limit : Option Int) (attrs : Attributes) : Logged Attributes :=
  match limit with
  | none => pure attrs
  | some n =>
    if (attrs.length : Int) ≤ n then pure attrs
    else
      let ordered := attrs.mergeSort keyLE
      let dropped := (ordered.drop n.toNat).map (·.1)
      ⟨ordered.take n.toNat, [⟨.debug, logger, droppedMessage n dropped⟩]⟩

/-- The normal form of a mapping. Where there is nothing to record there is nothing to log. -/
def normalize (settings : Settings) (entries : List (Value × Value)) :
    Except Fault (Logged Attributes) :=
  if entries.isEmpty then .ok (pure [])
  else (normalizeAll settings entries).map (select settings.countLimit)

/-- The settings that the environment asks for. -/
def Settings.ofEnvironment (env : Environment) : Logged Settings := do
  let countLimit ← env.integer? "OTEL_ATTRIBUTE_COUNT_LIMIT"
  let lengthLimit ← env.integer? "OTEL_ATTRIBUTE_VALUE_LENGTH_LIMIT"
  let keys :=
    match env.list? "CMDTRACE_OTEL_REDACT_KEYS" with
    | .ok (some keys) => keys
    | _ => usualRedactKeys
  pure { countLimit, lengthLimit, redactKeys := keys.map lower }

end CommandTelemetry.Attribute
