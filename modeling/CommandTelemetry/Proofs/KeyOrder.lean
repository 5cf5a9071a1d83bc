import Mathlib.Data.String.Basic
import CommandTelemetry.Value.Order

/-!
# Entries in the order of their keys

Entries under texts are put in order by their keys, code point by code point. Where no key stands
twice there is only one such order, so the result depends on the entries and not on the order in
which they came. Both the entries of a mapping and the attributes of a span are sorted in this way.
-/

namespace CommandTelemetry.Value

variable {α : Type} {xs ys : List (String × α)}

theorem textKeyLE_trans (a b c : String × α) (hab : textKeyLE a b = true)
    (hbc : textKeyLE b c = true) : textKeyLE a c = true :=
  decide_eq_true (le_trans (of_decide_eq_true hab) (of_decide_eq_true hbc))

theorem textKeyLE_total (a b : String × α) : (textKeyLE a b || textKeyLE b a) = true := by
  rw [Bool.or_eq_true]
  exact (le_total a.1 b.1).imp decide_eq_true decide_eq_true

theorem mergeSort_ascending (h : (xs.map Prod.fst).Nodup) :
    (xs.mergeSort textKeyLE).Pairwise fun a b => a.1 < b.1 := by
  have hsorted : (xs.mergeSort textKeyLE).Pairwise fun a b => textKeyLE a b = true :=
    List.pairwise_mergeSort textKeyLE_trans textKeyLE_total xs
  have hkeys : ((xs.mergeSort textKeyLE).map Prod.fst).Nodup :=
    ((List.mergeSort_perm xs _).map Prod.fst).nodup_iff.2 h
  have hdistinct : (xs.mergeSort textKeyLE).Pairwise fun a b => a.1 ≠ b.1 :=
    List.pairwise_map.1 hkeys
  refine hsorted.imp₂ (fun a b hle hne => ?_) hdistinct
  exact lt_of_le_of_ne (of_decide_eq_true hle) hne

/-- A list whose keys rise is the only order of its entries in which they do. -/
theorem eq_of_perm_of_ascending (hxs : xs.Pairwise fun a b => a.1 < b.1)
    (hys : ys.Pairwise fun a b => a.1 < b.1) (h : xs.Perm ys) : xs = ys :=
  h.eq_of_pairwise (fun _ _ _ _ hab hba => absurd hba (lt_asymm hab)) hxs hys

theorem mergeSort_eq_of_perm (h : xs.Perm ys) (hkeys : (xs.map Prod.fst).Nodup) :
    xs.mergeSort textKeyLE = ys.mergeSort textKeyLE := by
  have hys : (ys.map Prod.fst).Nodup := (h.map Prod.fst).nodup_iff.1 hkeys
  have hperm : (xs.mergeSort textKeyLE).Perm (ys.mergeSort textKeyLE) :=
    (List.mergeSort_perm xs _).trans (h.trans (List.mergeSort_perm ys _).symm)
  exact eq_of_perm_of_ascending (mergeSort_ascending hkeys) (mergeSort_ascending hys) hperm

end CommandTelemetry.Value
