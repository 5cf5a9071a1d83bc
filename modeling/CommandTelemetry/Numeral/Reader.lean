import CommandTelemetry.Numeral.Binary
import CommandTelemetry.Text.Blank
import CommandTelemetry.Text.DecimalDigit

/-!
# Reading numbers

Integers and numbers as people write them: blanks around, a sign, digits of any script, single
underscores between digits. A number may have a point and an exponent, or be one of the names of
infinity and NaN.
-/

namespace CommandTelemetry.Numeral

open Text

/-- The most digits that an integer text may have, whether it is read or written. -/
def maxIntegerDigits : Nat := 4300

/-- Blanks that may stand around a number. In a text of ASCII characters only the information
separators do not count. -/
def numberBlank (s : List Char) (c : Char) : Bool :=
  if s.all (·.toNat < 0x80) then c.toNat == 0x20 || (9 ≤ c.toNat && c.toNat ≤ 13)
  else isBlank c

def trimNumber (s : List Char) : List Char :=
  ((s.dropWhile (numberBlank s)).reverse.dropWhile (numberBlank s)).reverse

/-- Splits off a sign; `true` is minus. -/
def takeSign : List Char → Bool × List Char
  | '-' :: r => (true, r)
  | '+' :: r => (false, r)
  | r => (false, r)

/-- The values of a run of digits with single underscores between them, and what follows the run.
An underscore that no digit follows is left in the rest. -/
def takeDigits : List Char → List Nat × List Char
  | '_' :: c :: r =>
    match digitValue? c with
    | some d =>
      let more := takeDigits r
      (d :: more.1, more.2)
    | none => ([], '_' :: c :: r)
  | c :: r =>
    match digitValue? c with
    | some d =>
      let more := takeDigits r
      (d :: more.1, more.2)
    | none => ([], c :: r)
  | [] => ([], [])

/-- A run that starts with a digit. -/
def takeDigitRun (s : List Char) : List Nat × List Char :=
  match s with
  | '_' :: _ => ([], s)
  | _ => takeDigits s

/-- The natural with these decimal digits. -/
def ofDigits (ds : List Nat) : Nat := ds.foldl (fun n d => 10 * n + d) 0

inductive IntegerText where
  | integer (n : Int)
  | tooLong (digits : Nat)
  | malformed
  deriving DecidableEq, Repr

/-- What an integer text stands for. -/
def readInteger (s : String) : IntegerText :=
  let (negative, body) := takeSign (trimNumber s.toList)
  match takeDigitRun body with
  | ([], _) => .malformed
  | (ds, []) =>
    if maxIntegerDigits < ds.length then .tooLong ds.length
    else .integer (if negative then -ofDigits ds else ofDigits ds)
  | (_, _ :: _) => .malformed

def IntegerText.toInt? : IntegerText → Option Int
  | .integer n => some n
  | _ => none

/-- The number nearest to `digits * 10 ^ exponent`. Exponents far out of range are cut short before
any power of ten is formed. -/
def ofDecimal (digits : Nat) (exponent : Int) : Float :=
  if digits == 0 then 0.0
  else
    let lead : Int := exponent + (Nat.toDigits 10 digits).length
    if 400 < lead then 1.0 / 0.0
    else if lead < -400 then 0.0
    else Float.ofScientific digits (exponent < 0) exponent.natAbs

/-- The exponent part of a number text, up to its end. -/
def readExponent? : List Char → Option Int
  | [] => some 0
  | c :: r =>
    if c = 'e' ∨ c = 'E' then
      let (negative, body) := takeSign r
      match takeDigitRun body with
      | ([], _) => none
      | (ds, []) => some (if negative then -ofDigits ds else ofDigits ds)
      | (_, _ :: _) => none
    else none

/-- The names of numbers that have no digits. -/
def readName? (s : List Char) : Option Float :=
  match String.ofList (s.map Char.toLower) with
  | "inf" | "infinity" => some (1.0 / 0.0)
  | "nan" => some (0.0 / 0.0)
  | _ => none

/-- An unsigned number without blanks around it. -/
def readMagnitude? (s : List Char) : Option Float :=
  let (whole, rest) := takeDigitRun s
  let (fraction, rest) :=
    match rest with
    | '.' :: r => takeDigitRun r
    | r => ([], r)
  if whole.isEmpty && fraction.isEmpty then none
  else do
    let e ← readExponent? rest
    some (ofDecimal (ofDigits (whole ++ fraction)) (e - fraction.length))

/-- What a number text stands for. -/
def readNumber? (s : String) : Option Float := do
  let (negative, body) := takeSign (trimNumber s.toList)
  let x ← (readName? body).orElse fun _ => readMagnitude? body
  some (if negative then -x else x)

end CommandTelemetry.Numeral
