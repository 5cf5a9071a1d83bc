import CommandTelemetry.Value.Basic
import CommandTelemetry.Json.Document
import CommandTelemetry.Numeral.Form

/-!
# The compact document of a value

Failure codes are recorded as a JSON text without spaces. Entries keep their order, octets are
written in base 64, and a value of any other kind has no document.
-/

namespace CommandTelemetry.Value

open Numeral Json

/-- Why a value has no compact document. -/
inductive Unwritable where
  /-- A value of this type. -/
  | value (type : String)
  /-- A key that is neither a text nor a number. -/
  | key
  deriving DecidableEq, Repr

def Unwritable.message : Unwritable → String
  | value type => s!"Encoding objects of type {type} is unsupported"
  | key => "Only dicts with str-like or number-like keys are supported"

/-- The digit of base 64 with this value. -/
def base64Digit (n : Nat) : Char :=
  if n < 26 then Char.ofNat (0x41 + n)
  else if n < 52 then Char.ofNat (0x61 + (n - 26))
  else if n < 62 then Char.ofNat (0x30 + (n - 52))
  else if n = 62 then '+'
  else '/'

/-- Three octets make four digits; what is missing at the end is filled up with equals signs. -/
def base64 : List UInt8 → List Char
  | [] => []
  | [a] =>
    let n := a.toNat * 16
    [base64Digit (n / 64), base64Digit (n % 64), '=', '=']
  | [a, b] =>
    let n := (a.toNat * 256 + b.toNat) * 4
    [base64Digit (n / 4096), base64Digit (n / 64 % 64), base64Digit (n % 64), '=']
  | a :: b :: c :: rest =>
    let n := (a.toNat * 256 + b.toNat) * 256 + c.toNat
    base64Digit (n / 262144) :: base64Digit (n / 4096 % 64) :: base64Digit (n / 64 % 64)
      :: base64Digit (n % 64) :: base64 rest

def compactKey : Value → Except Unwritable String
  | text s => .ok s
  | int n => .ok (toString n)
  | exit c => .ok (toString c.number)
  | float x => .ok (compactForm.write x)
  | octets b => .ok (String.ofList (base64 b))
  | _ => .error .key

mutual

def compact : Value → Except Unwritable Document
  | null => .ok .null
  | bool b => .ok (.bool b)
  | int n => .ok (.number (toString n))
  | exit c => .ok (.number (toString c.number))
  | float x => .ok (.number (compactForm.write x))
  | text s => .ok (.text s)
  | list items | tuple items => (compactItems items).map .array
  | mapping entries => (compactMembers entries).map .object
  | octets b | buffer b => .ok (.text (String.ofList (base64 b)))
  | v => .error (.value v.typeName)

def compactItems : List Value → Except Unwritable (List Document)
  | [] => .ok []
  | v :: vs => do
    let d ← compact v
    let ds ← compactItems vs
    pure (d :: ds)

def compactMembers : List (Value × Value) → Except Unwritable (List (String × Document))
  | [] => .ok []
  | (k, v) :: rest => do
    let name ← compactKey k
    let d ← compact v
    let ds ← compactMembers rest
    pure ((name, d) :: ds)

end

end CommandTelemetry.Value
