import CommandTelemetry.Value.Basic
import CommandTelemetry.Numeral.Form

/-!
# Display of values

`inspect` writes a value so that its kind shows: texts are quoted, containers bracketed. `display`
differs on the outermost level only, where a text stands for itself and an exit code is a number.
Not every value can be written. An integer may be too long, and a datum of no known kind may fail to
tell its text; whatever holds one of these has no text either.
-/

namespace CommandTelemetry.Value

open Text Numeral

/-- A buffer is quoted as octets are, but a single quote in it is escaped in any case. -/
def quotedBuffer (b : List UInt8) : String :=
  let s := b.map fun x => Char.ofNat x.toNat
  let mark := quoteMark s
  let plain (c : Char) : Bool := 0x20 ≤ c.toNat && c.toNat < 0x7F
  let body := s.flatMap fun c => if c = '\'' then ['\\', c] else quoteChar plain mark c
  "bytearray(b" ++ String.ofList (mark :: body ++ [mark]) ++ ")"

mutual

def inspect : Value → Except Fault String
  | null => .ok "None"
  | bool b => .ok (if b then "True" else "False")
  | int n => integerText n
  | exit c => .ok s!"<ExitCode.{c.name}: {c.number}>"
  | float x => .ok (displayForm.write x)
  | text s => .ok (quoted s)
  | list items => do return "[" ++ ", ".intercalate (← inspectAll items) ++ "]"
  | tuple items =>
    match items with
    | [v] => do return "(" ++ (← inspect v) ++ ",)"
    | vs => do return "(" ++ ", ".intercalate (← inspectAll vs) ++ ")"
  | mapping entries => do return "\x7b" ++ ", ".intercalate (← inspectEntries entries) ++ "\x7d"
  | octets b => .ok (quotedOctets b)
  | buffer b => .ok (quotedBuffer b)
  | range start stop => do
    let first ← integerText start
    let last ← integerText stop
    return s!"range({first}, {last})"
  | foreign _ label | view _ label | sequence _ _ _ label | knot _ label | ring _ _ _ label => label

def inspectAll : List Value → Except Fault (List String)
  | [] => .ok []
  | v :: vs => do
    let s ← inspect v
    let rest ← inspectAll vs
    return s :: rest

def inspectEntries : List (Value × Value) → Except Fault (List String)
  | [] => .ok []
  | (k, v) :: rest => do
    let name ← inspect k
    let s ← inspect v
    let others ← inspectEntries rest
    return (name ++ ": " ++ s) :: others

end

def display : Value → Except Fault String
  | text s => .ok s
  | exit c => .ok (toString c.number)
  | v => inspect v

end CommandTelemetry.Value
