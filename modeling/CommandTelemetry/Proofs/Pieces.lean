import Mathlib.Data.List.Infix
import CommandTelemetry.Text.Blank

/-!
# The pieces of a text

A text is cut at the first occurrence of a separator, then again behind it. So no piece has the
separator in it, and the last piece is what follows the last occurrence.
-/

namespace CommandTelemetry.Text

variable {sep s front behind : List Char}

theorem cutAt?_eq_none_iff (hsep : sep ≠ []) : cutAt? sep s = none ↔ ¬sep <:+: s := by
  induction s with
  | nil => simp [cutAt?, hsep]
  | cons c r ih =>
      rw [cutAt?, List.infix_cons_iff]
      split
      · next hoccurs =>
          have hoccurs := List.isPrefixOf_iff_prefix.1 hoccurs
          simp [hoccurs]
      · next hoccurs =>
          have hoccurs : ¬sep <+: c :: r := fun h => hoccurs (List.isPrefixOf_iff_prefix.2 h)
          rw [Option.map_eq_none_iff, ih, not_or]
          exact ⟨fun h => ⟨hoccurs, h⟩, fun h => h.2⟩

/-- A cut is made around an occurrence, and there is none in front of it. -/
theorem of_cutAt?_eq_some (hsep : sep ≠ []) (h : cutAt? sep s = some (front, behind)) :
    s = front ++ sep ++ behind ∧ ¬sep <:+: front := by
  induction s generalizing front with
  | nil => simp [cutAt?] at h
  | cons c r ih =>
      rw [cutAt?] at h
      split at h
      · next hoccurs =>
          obtain ⟨rest, hrest⟩ := List.isPrefixOf_iff_prefix.1 hoccurs
          obtain ⟨x, tail, rfl⟩ := List.exists_cons_of_ne_nil hsep
          rw [List.cons_append] at hrest
          cases hrest
          simp only [List.length_cons, Nat.add_sub_cancel, List.drop_left, Option.some.injEq,
            Prod.mk.injEq] at h
          obtain ⟨rfl, rfl⟩ := h
          simp
      · next hoccurs =>
          obtain ⟨p, hp, hcut⟩ := Option.map_eq_some_iff.1 h
          cases hcut
          obtain ⟨hr, hfront⟩ := ih hp
          refine ⟨by rw [hr]; rfl, fun hinfix => ?_⟩
          rcases List.infix_cons_iff.1 hinfix with hstart | hlater
          · -- An occurrence at the very front would have been the cut.
            have hwhole : sep <+: c :: r := by
              rw [hr, List.append_assoc, ← List.cons_append]
              exact hstart.trans (List.prefix_append _ _)
            exact hoccurs (List.isPrefixOf_iff_prefix.2 hwhole)
          · exact hfront hlater

theorem splitOn_of_not_infix (hsep : sep ≠ []) (h : ¬sep <:+: s) : splitOn sep s = [s] := by
  rw [splitOn]
  split
  · rfl
  · next hcut => rw [(cutAt?_eq_none_iff hsep).2 h] at hcut; cases hcut

/-- To cut at a single character is to cut at its occurrences. -/
theorem splitOn_singleton (c : Char) (s : List Char) : splitOn [c] s = s.splitOn c := by
  have hsep : [c] ≠ [] := List.cons_ne_nil _ _
  fun_induction splitOn [c] s with
  | case1 s hcut =>
      have hinfix := (cutAt?_eq_none_iff hsep).1 hcut
      rw [List.singleton_infix_iff] at hinfix
      exact (List.splitOn_eq_singleton hinfix).symm
  | case2 s front behind hcut _ ih =>
      obtain ⟨rfl, hfront⟩ := of_cutAt?_eq_some hsep hcut
      rw [List.singleton_infix_iff] at hfront
      rw [ih, List.append_assoc, List.singleton_append,
        List.splitOn_append_cons_self_of_not_mem hfront]

/-- No piece has the separator in it. -/
theorem not_infix_of_mem_splitOn (hsep : sep ≠ []) {piece : List Char}
    (h : piece ∈ splitOn sep s) : ¬sep <:+: piece := by
  fun_induction splitOn sep s with
  | case1 s hcut =>
      rw [List.mem_singleton.1 h]
      exact (cutAt?_eq_none_iff hsep).1 hcut
  | case2 s front behind hcut _ ih =>
      rcases List.mem_cons.1 h with rfl | h
      · exact (of_cutAt?_eq_some hsep hcut).2
      · exact ih h

theorem infix_of_mem_splitOn (hsep : sep ≠ []) {piece : List Char}
    (h : piece ∈ splitOn sep s) : piece <:+: s := by
  fun_induction splitOn sep s with
  | case1 s _ => rw [List.mem_singleton.1 h]
  | case2 s front behind hcut _ ih =>
      obtain ⟨rfl, -⟩ := of_cutAt?_eq_some hsep hcut
      rcases List.mem_cons.1 h with rfl | h
      · exact ((List.prefix_append _ _).trans (List.prefix_append _ _)).isInfix
      · exact (ih h).trans (List.suffix_append _ _).isInfix

/-- Texts are what their characters make. -/
theorem map_ofList_toList (pieces : List String) :
    (pieces.map String.toList).map String.ofList = pieces := by
  rw [List.map_map]
  exact (List.map_congr_left fun _ _ => String.ofList_toList).trans (List.map_id pieces)

end CommandTelemetry.Text
