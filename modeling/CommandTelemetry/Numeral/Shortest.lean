import CommandTelemetry.Numeral.Binary

/-!
# Shortest decimals

The decimal chosen for a 64-bit number is the one with the fewest digits among those that round to
the number; of two such decimals the nearer one, and of two equally near ones the one with the even
last digit. The search looks at coarser grids first and needs, on each grid, only the two
neighbours of the exact value.
-/

namespace CommandTelemetry.Numeral

/-- The number `digits * 10 ^ exponent`. -/
structure Decimal where
  digits : Nat
  exponent : Int
  deriving DecidableEq, Repr

/-- The decimal lies among the reals that round to `b`, ties to even. -/
def Binary.readsBack (b : Binary) (d : Decimal) : Bool :=
  let low := if b.narrowBelow then 4 * b.mantissa - 1 else 4 * b.mantissa - 2
  let high := 4 * b.mantissa + 2
  let closed := b.mantissa % 2 == 0
  let atLow := compareScaled d.digits d.exponent low (b.exponent - 2)
  let atHigh := compareScaled d.digits d.exponent high (b.exponent - 2)
  (atLow == .gt || (closed && atLow == .eq)) && (atHigh == .lt || (closed && atHigh == .eq))

/-- The least `k` at or above `start` within `fuel` steps with `b < 10 ^ k`. -/
def Binary.scaleFrom (b : Binary) : (fuel : Nat) → (start : Int) → Int
  | 0, k => k
  | fuel + 1, k =>
    if compareScaled 1 k b.mantissa b.exponent == .gt then k else b.scaleFrom fuel (k + 1)

/-- The least `k` with `b < 10 ^ k`. The estimate from the binary logarithm is at most one or two
below it. -/
def Binary.scale (b : Binary) : Int :=
  let log := (b.mantissa.log2 : Int) + b.exponent
  b.scaleFrom 4 ((log * 1233).fdiv 4096)

/-- The neighbour of the value on the grid of step `10 ^ e` that reads back, the nearer if both. -/
def Binary.onGrid? (b : Binary) (e : Int) : Option Decimal :=
  let num := b.mantissa * Nat.pow 2 b.exponent.toNat * Nat.pow 10 (-e).toNat
  let den := Nat.pow 2 (-b.exponent).toNat * Nat.pow 10 e.toNat
  let below : Decimal := ⟨num / den, e⟩
  let above : Decimal := ⟨num / den + 1, e⟩
  match b.readsBack below, b.readsBack above with
  | true, false => some below
  | false, true => some above
  | true, true =>
    match compare (2 * (num % den)) den with
    | .lt => some below
    | .gt => some above
    | .eq => if below.digits % 2 == 0 then some below else some above
  | false, false => none

/-- Moves trailing zeros of the digits into the exponent. -/
def Decimal.stripZeros : (fuel : Nat) → Decimal → Decimal
  | 0, d => d
  | fuel + 1, d =>
    if d.digits != 0 && d.digits % 10 == 0 then
      stripZeros fuel ⟨d.digits / 10, d.exponent + 1⟩
    else d

/-- The shortest decimal of a magnitude that is not zero. Seventeen digits always suffice; the
exact value stands behind the search all the same. -/
def Binary.shortest (b : Binary) : Decimal :=
  let k := b.scale
  let found := (List.range 17).findSome? fun n => b.onGrid? (k - (n + 1 : Nat))
  let exact : Decimal :=
    if 0 ≤ b.exponent then ⟨b.mantissa * Nat.pow 2 b.exponent.toNat, 0⟩
    else ⟨b.mantissa * Nat.pow 5 (-b.exponent).toNat, b.exponent⟩
  (found.getD exact).stripZeros 800

end CommandTelemetry.Numeral
