import CommandTelemetry.Value.Display
import CommandTelemetry.Value.Order
import CommandTelemetry.Json.Document

/-!
# The canonical text of a value

A mapping that is recorded as an attribute becomes a JSON text with its keys in order, so that two
plain mappings that differ in the order of insertion only are recorded alike. The keys are put in
order before they become texts: integers by what they stand for. Values that JSON does not know are
written as the text of their display, and these include mappings and sequences that are not plain
ones. What holds itself has no text at all.
-/

namespace CommandTelemetry.Value

open Numeral Json

/-- The text of a key in a canonical text. -/
def keyText : Value → Except Fault String
  | text s => .ok s
  | null => .ok "null"
  | bool b => .ok (if b then "true" else "false")
  | int n => integerText n
  | exit c => .ok (toString c.number)
  | float x => .ok (canonicalForm.write x)
  | v => .error (.unwritableKey v.typeName)

/-- The members of an object, from the entries of a mapping whose values are documents already, or
the reason why they cannot be. -/
def members (entries : List (Value × Except Fault Document)) :
    Except Fault (List (String × Document)) := do
  let sorted ← sortEntries entries
  sorted.mapM fun e => do
    let k ← keyText e.1
    let d ← e.2
    pure (k, d)

mutual

def document : Value → Except Fault Document
  | null => .ok .null
  | bool b => .ok (.bool b)
  | int n => (integerText n).map .number
  | exit c => .ok (.number (toString c.number))
  | float x => .ok (.number (canonicalForm.write x))
  | text s => .ok (.text s)
  | list items | tuple items => (documents items).map .array
  | mapping entries => (members (entryDocuments entries)).map .object
  | knot fault _ | ring _ _ fault _ => .error fault
  | v => v.display.map .text

def documents : List Value → Except Fault (List Document)
  | [] => .ok []
  | v :: vs => do
    let d ← document v
    let ds ← documents vs
    pure (d :: ds)

def entryDocuments : List (Value × Value) → List (Value × Except Fault Document)
  | [] => []
  | (k, v) :: rest => (k, document v) :: entryDocuments rest

end

def canonicalText (v : Value) : Except Fault String := v.document.map (·.write spaced)

end CommandTelemetry.Value
