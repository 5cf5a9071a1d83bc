/-!
# The exact value of a binary floating-point number

A finite 64-bit number is `m * 2 ^ q` with a sign. Everything that has to be exact, such as the
choice of decimal digits or a comparison with an integer, is done on `m` and `q` in integer
arithmetic.
-/

namespace CommandTelemetry.Numeral

/-- The magnitude `mantissa * 2 ^ exponent` of a finite 64-bit number. -/
structure Binary where
  mantissa : Nat
  exponent : Int
  /-- The number below is half as far away as the number above. -/
  narrowBelow : Bool
  deriving DecidableEq, Repr

/-- Reads the magnitude off the bits. NaN and the infinities are no such value. -/
def Binary.ofBits (bits : UInt64) : Binary :=
  let biased := ((bits >>> 52) &&& 0x7FF).toNat
  let fraction := (bits &&& 0xFFFFFFFFFFFFF).toNat
  if biased == 0 then ⟨fraction, -1074, false⟩
  else ⟨Nat.pow 2 52 + fraction, (biased : Int) - 1075, fraction == 0 && biased > 1⟩

def isNegative (x : Float) : Bool := x.toBits >>> 63 == 1

/-- Compares `a * 10 ^ i` with `n * 2 ^ j`, exactly. -/
def compareScaled (a : Nat) (i : Int) (n : Nat) (j : Int) : Ordering :=
  compare (a * Nat.pow 10 i.toNat * Nat.pow 2 (-j).toNat)
    (n * Nat.pow 2 j.toNat * Nat.pow 10 (-i).toNat)

/-- The signed mantissa of a finite number. -/
def signedMantissa (x : Float) : Int :=
  let m := (Binary.ofBits x.toBits).mantissa
  if isNegative x then -m else m

/-- The order of an integer and a number that is not NaN, by their exact values. -/
def compareInt (n : Int) (x : Float) : Ordering :=
  if x.isInf then
    if isNegative x then .gt else .lt
  else
    let q := (Binary.ofBits x.toBits).exponent
    compare (n * Int.pow 2 (-q).toNat) (signedMantissa x * Int.pow 2 q.toNat)

/-- The nearest number to an integer, ties to even, or `none` when it is out of range. -/
def ofInt? (n : Int) : Option Float :=
  if 1024 < n.natAbs.log2 then none
  else
    let x := Float.ofScientific n.natAbs false 0
    if x.isInf then none else some (if n < 0 then -x else x)

/-- The integer part of a finite number, cut toward zero. -/
def truncate (x : Float) : Int :=
  let b := Binary.ofBits x.toBits
  let magnitude := b.mantissa * Nat.pow 2 b.exponent.toNat / Nat.pow 2 (-b.exponent).toNat
  if isNegative x then -magnitude else magnitude

/-- The quotient of two naturals rounded to nearest, ties to even. -/
def roundQuotient (num den : Nat) : Nat :=
  let q := num / den
  match compare (2 * (num % den)) den with
  | .lt => q
  | .gt => q + 1
  | .eq => if q % 2 == 0 then q else q + 1

/-- The magnitude of a finite number times a natural, rounded to an integer, ties to even. -/
def roundScaled (x : Float) (scale : Nat) : Nat :=
  let b := Binary.ofBits x.toBits
  roundQuotient (b.mantissa * Nat.pow 2 b.exponent.toNat * scale) (Nat.pow 2 (-b.exponent).toNat)

end CommandTelemetry.Numeral
