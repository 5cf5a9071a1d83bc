import CommandTelemetry.Value.Display

/-!
# The integer of a value

Exit codes of results may be given as any value that stands for an integer: a number, which is cut
toward zero, or a text or octets that read as an integer.
-/

namespace CommandTelemetry.Value

open Text Numeral

/-- Reads an integer off a text; `shown` is how the text is reported. -/
def integerOfText (s shown : String) : Except Fault Int :=
  match readInteger s with
  | .integer n => .ok n
  | .tooLong digits => .error (.tooManyDigits digits)
  | .malformed => .error (.notAnInteger shown)

/-- Reads an integer off octets, all of which have to be ASCII. -/
def integerOfOctets (b : List UInt8) (shown : String) : Except Fault Int :=
  if b.all (· < 0x80) then
    integerOfText (String.ofList (b.map fun x => Char.ofNat x.toNat)) shown
  else .error (.notAnInteger shown)

def toInteger : Value → Except Fault Int
  | float x =>
    if x.isNaN then .error .integerOfNaN
    else if x.isInf then .error .integerOfInfinity
    else .ok (truncate x)
  | text s => integerOfText s (quoted s)
  | octets b | buffer b => integerOfOctets b (quotedOctets b)
  | v =>
    match v.asInt? with
    | some n => .ok n
    | none => .error (.noInteger v.typeName)

end CommandTelemetry.Value
