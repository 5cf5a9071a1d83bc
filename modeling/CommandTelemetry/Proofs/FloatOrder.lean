/-!
# The order of floating-point numbers

NaN stands in no order to anything, so a value that is compared with another one and found to be at
most that is a number. The order is decided on the unpacked forms of two values, where to swap them
swaps the answer. So a value that is at most another one is not above it, although neither of two
values need be at most the other.
-/

namespace CommandTelemetry.Numeral

open Float.Model

variable {x y : Float}

/-- The unpacked form, which has a constructor for each kind of number. -/
def unpacked (x : Float) : UnpackedFloat := x.toModel.unpack

theorem float_le_iff :
    x ≤ y ↔ ∃ o, (unpacked x).compare (unpacked y) = some o ∧ o.isLE = true := by
  have hle : x ≤ y ↔ (unpacked x).le (unpacked y) = true := decide_eq_true_iff
  rw [hle, UnpackedFloat.le, Option.any_eq_true]

theorem float_lt_iff : x < y ↔ (unpacked x).compare (unpacked y) = some .lt := by
  have hlt : x < y ↔ (unpacked x).lt (unpacked y) = true := decide_eq_true_iff
  rw [hlt, UnpackedFloat.lt, beq_iff_eq]

theorem compare_swap (a b : UnpackedFloat) : b.compare a = (a.compare b).map Ordering.swap := by
  cases a with
  | notANumber => cases b <;> rfl
  | infinity s => cases s <;> cases b with
    | infinity t => cases t <;> rfl
    | _ => rfl
  | zero s => cases b with
    | infinity t | finite t _ _ _ => cases t <;> rfl
    | _ => rfl
  | finite s m e h => cases b with
    | finite t m' e' h' =>
        have hmagnitude : (compare e' e).then (compare m' m) =
            ((compare e e').then (compare m m')).swap := by
          rw [Ordering.swap_then, ← Std.OrientedCmp.eq_swap, ← Std.OrientedCmp.eq_swap]
        cases s with
        | negative => cases t with
          | negative => exact congrArg (fun o => some o.swap) hmagnitude
          | positive => rfl
        | positive => cases t with
          | negative => rfl
          | positive => exact congrArg some hmagnitude
    | infinity t => cases t <;> cases s <;> rfl
    | _ => cases s <;> rfl

theorem float_not_lt_of_le (h : x ≤ y) : ¬y < x := by
  obtain ⟨o, hcompare, ho⟩ := float_le_iff.1 h
  rw [float_lt_iff, compare_swap, hcompare]
  cases o with
  | gt => cases ho
  | lt | eq => exact fun heq => by cases heq

theorem isNaN_of_le (h : x ≤ y) : x.isNaN = false := by
  obtain ⟨o, hcompare, -⟩ := float_le_iff.1 h
  have hkind : x.isNaN = (unpacked x).isNaN := rfl
  rw [hkind]
  cases hx : unpacked x with
  | notANumber =>
      rw [hx] at hcompare
      cases hcompare
  | _ => rfl

end CommandTelemetry.Numeral
