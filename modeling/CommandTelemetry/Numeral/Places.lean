import CommandTelemetry.Numeral.Form

/-!
# Numbers with given places

A number is written with a given number of decimal places, with an exponent and a given number of
places, or in whichever of the two forms suits its size. The exact value is rounded, ties to even.
A point with nothing behind it is left out unless it is to be kept, and so are, in the last form,
zeros at the end.
-/

namespace CommandTelemetry.Numeral

/-- A natural that counts units of the last of `places` decimal places. -/
def withPoint (keepsPoint : Bool) (places n : Nat) : String :=
  let digits := padded (places + 1) n
  if places = 0 then if keepsPoint then digits ++ "." else digits
  else
    let whole := digits.length - places
    String.ofList (digits.toList.take whole) ++ "." ++ String.ofList (digits.toList.drop whole)

/-- The magnitude with so many decimal places. -/
def fixedPlaces (keepsPoint : Bool) (places : Nat) (x : Float) : String :=
  withPoint keepsPoint places (roundScaled x (Nat.pow 10 places))

/-- The magnitude in units of `10 ^ e`, rounded. -/
def unitsAt (b : Binary) (e : Int) : Nat :=
  roundQuotient (b.mantissa * Nat.pow 2 b.exponent.toNat * Nat.pow 10 (-e).toNat)
    (Nat.pow 2 (-b.exponent).toNat * Nat.pow 10 e.toNat)

/-- The leading `places + 1` digits of a magnitude and the exponent of the first. -/
def leadingDigits (places : Nat) (x : Float) : Nat × Int :=
  let b := Binary.ofBits x.toBits
  if b.mantissa = 0 then (0, 0)
  else
    let e := b.scale - 1
    let n := unitsAt b (e - places)
    if n < Nat.pow 10 (places + 1) then (n, e) else (unitsAt b (e + 1 - places), e + 1)

/-- A signed exponent of at least two digits. -/
def exponentText (e : Int) : String :=
  (if e < 0 then "e-" else "e+") ++ padded 2 e.natAbs

/-- The magnitude with an exponent and so many decimal places. -/
def scientificPlaces (keepsPoint : Bool) (places : Nat) (x : Float) : String :=
  let (n, e) := leadingDigits places x
  withPoint keepsPoint places n ++ exponentText e

/-- Drops zeros behind the point, and a point with nothing behind it. -/
def dropTrailingZeros (s : String) : String :=
  if s.toList.contains '.' then
    let kept := s.toList.reverse.dropWhile (· = '0')
    String.ofList (if kept.head? = some '.' then kept.drop 1 else kept).reverse
  else s

/-- The magnitude with so many digits, at least one, in the form that suits its size. -/
def suitablePlaces (keepsPoint : Bool) (digits : Nat) (x : Float) : String :=
  let places := digits - 1
  let (n, e) := leadingDigits places x
  let finish (s : String) : String := if keepsPoint then s else dropTrailingZeros s
  if -4 ≤ e ∧ e ≤ (places : Int) then finish (fixedPlaces keepsPoint (places - e).toNat x)
  else finish (withPoint keepsPoint places n) ++ exponentText e

end CommandTelemetry.Numeral
