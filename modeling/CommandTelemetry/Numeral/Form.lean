import CommandTelemetry.Numeral.Shortest

/-!
# Written forms of numbers

A form says how the digits of a shortest decimal are laid out: for which exponents the number
is written positionally, and how the exponent is written otherwise. A positional integer keeps one
zero after the point.

Three outputs write numbers in this way: the display of a value, the canonical text of a mapping,
and the compact text of failure codes. They differ in the fields of one record.
-/

namespace CommandTelemetry.Numeral

structure NumberForm where
  /-- The least exponent of the leading digit that is written positionally. -/
  plainFrom : Int
  /-- The least exponent above those that is not. -/
  plainBelow : Int
  /-- A positive exponent bears a plus sign. -/
  expPlus : Bool
  /-- The least number of digits of an exponent. -/
  expWidth : Nat
  notANumber : String
  infinity : String
  negativeInfinity : String

def zeros (n : Nat) : String := String.ofList (List.replicate n '0')

/-- A natural in decimal, padded with zeros on the left. -/
def padded (width n : Nat) : String :=
  let text := toString n
  zeros (width - text.length) ++ text

/-- An exponent with its mark. -/
def NumberForm.writeExponent (f : NumberForm) (e : Int) : String :=
  let sign := if e < 0 then "-" else if f.expPlus then "+" else ""
  "e" ++ sign ++ padded f.expWidth e.natAbs

/-- The digits `s`, the first of which has the exponent `e`. -/
def NumberForm.layOut (f : NumberForm) (s : String) (e : Int) : String :=
  if f.plainFrom ≤ e ∧ e < f.plainBelow then
    if e < 0 then "0." ++ zeros (-e - 1).toNat ++ s
    else
      let whole := e.toNat + 1
      if s.length ≤ whole then s ++ zeros (whole - s.length) ++ ".0"
      else String.ofList (s.toList.take whole) ++ "." ++ String.ofList (s.toList.drop whole)
  else
    match s.toList with
    | [d] => String.singleton d ++ f.writeExponent e
    | d :: rest => String.singleton d ++ "." ++ String.ofList rest ++ f.writeExponent e
    | [] => ""

/-- The written form of a number. -/
def NumberForm.write (f : NumberForm) (x : Float) : String :=
  if x.isNaN then f.notANumber
  else if x.isInf then
    if isNegative x then f.negativeInfinity else f.infinity
  else
    let b := Binary.ofBits x.toBits
    let magnitude :=
      if b.mantissa == 0 then f.layOut "0" 0
      else
        let d := b.shortest
        let s := toString d.digits
        f.layOut s (d.exponent + (s.length - 1 : Nat))
    if isNegative x then "-" ++ magnitude else magnitude

/-- Numbers inside displayed values: positional from 0.0001 to below 10 ^ 16, otherwise with a
signed exponent of at least two digits. -/
def displayForm : NumberForm where
  plainFrom := -4
  plainBelow := 16
  expPlus := true
  expWidth := 2
  notANumber := "nan"
  infinity := "inf"
  negativeInfinity := "-inf"

/-- Numbers in the canonical text of a mapping: as displayed, but for the special values. -/
def canonicalForm : NumberForm where
  plainFrom := -4
  plainBelow := 16
  expPlus := true
  expWidth := 2
  notANumber := "NaN"
  infinity := "Infinity"
  negativeInfinity := "-Infinity"

/-- Numbers in compact text: positional from 0.00001 to below 10 ^ 16, otherwise with a bare
exponent. The special values have no number, so they are written as absent. -/
def compactForm : NumberForm where
  plainFrom := -5
  plainBelow := 16
  expPlus := false
  expWidth := 1
  notANumber := "null"
  infinity := "null"
  negativeInfinity := "null"

/-- A number with one decimal place: the exact value rounded, ties to even. -/
def oneDecimal (x : Float) : String :=
  if x.isNaN then "nan"
  else
    let sign := if isNegative x then "-" else ""
    if x.isInf then sign ++ "inf"
    else
      let tenths := roundScaled x 10
      sign ++ toString (tenths / 10) ++ "." ++ toString (tenths % 10)

end CommandTelemetry.Numeral
