import Mathlib.Data.List.TakeWhile
import CommandTelemetry.Proofs.Pieces

/-!
# Blanks at the ends

To strip a text is to take the blanks off at both ends, so what was put there does not matter, and a
text is what is left of it with blanks on either side. A text that is cut at a separator which is
not blank has its own blanks at the ends of the first piece and of the last one. So it does not
matter whether it is stripped before it is cut, once its pieces are.
-/

namespace CommandTelemetry.Text

variable {s w : List Char} {c : Char}

/-- All characters are blank. -/
def AllBlank (s : List Char) : Prop := ∀ c ∈ s, isBlank c = true

instance (s : List Char) : Decidable (AllBlank s) :=
  List.decidableBAll (isBlank · = true) s

theorem AllBlank.reverse (h : AllBlank w) : AllBlank w.reverse :=
  fun c hc => h c (List.mem_reverse.1 hc)

theorem AllBlank.notMem (h : AllBlank w) (hc : isBlank c = false) : c ∉ w :=
  fun hmem => by rw [h c hmem] at hc; cases hc

theorem allBlank_takeWhile (s : List Char) : AllBlank (s.takeWhile isBlank) :=
  fun _ hc => List.mem_takeWhile_imp hc

theorem stripChars_append_left (hw : AllBlank w) : stripChars (w ++ s) = stripChars s := by
  rw [stripChars, stripChars, List.dropWhile_append_of_pos hw]

theorem stripChars_append_right (hw : AllBlank w) : stripChars (s ++ w) = stripChars s := by
  rw [stripChars, stripChars, List.dropWhile_append]
  cases hs : s.dropWhile isBlank with
  | nil => rw [List.isEmpty_nil, if_pos rfl, List.dropWhile_eq_nil_iff.2 hw]
  | cons c rest =>
      rw [List.isEmpty_cons, if_neg Bool.false_ne_true, List.reverse_append,
        List.dropWhile_append_of_pos hw.reverse]

/-- A text is what is left when it is stripped, between blanks. -/
theorem exists_stripChars (s : List Char) :
    ∃ w w', AllBlank w ∧ AllBlank w' ∧ s = w ++ (stripChars s ++ w') := by
  let front := s.dropWhile isBlank
  refine ⟨s.takeWhile isBlank, (front.reverse.takeWhile isBlank).reverse, allBlank_takeWhile s,
    (allBlank_takeWhile _).reverse, ?_⟩
  have hfront : stripChars s ++ (front.reverse.takeWhile isBlank).reverse = front := by
    rw [stripChars, ← List.reverse_append, List.takeWhile_append_dropWhile, List.reverse_reverse]
  rw [hfront, List.takeWhile_append_dropWhile]

theorem infix_stripChars (s : List Char) : stripChars s <:+: s := by
  obtain ⟨w, w', -, -, hs⟩ := exists_stripChars s
  exact ⟨w, w', by rw [List.append_assoc, ← hs]⟩

theorem stripChars_eq_nil_iff : stripChars s = [] ↔ AllBlank s := by
  constructor
  · intro hnil
    obtain ⟨w, w', hw, hw', hs⟩ := exists_stripChars s
    rw [hnil, List.nil_append] at hs
    rw [hs]
    exact fun c hc => (List.mem_append.1 hc).elim (hw c) (hw' c)
  · intro hs
    have hstrip := stripChars_append_left (s := []) hs
    rwa [List.append_nil] at hstrip

/-- Neither end is blank. -/
structure Stripped (s : List Char) : Prop where
  head : ∀ c ∈ s.head?, isBlank c = false
  last : ∀ c ∈ s.getLast?, isBlank c = false

theorem stripped_iff :
    Stripped s ↔ (∀ c ∈ s.head?, isBlank c = false) ∧ ∀ c ∈ s.getLast?, isBlank c = false :=
  ⟨fun h => ⟨h.head, h.last⟩, fun h => ⟨h.1, h.2⟩⟩

instance (s : List Char) : Decidable (Stripped s) :=
  -- the look at either end, and not the search through all characters
  have : Decidable (∀ c ∈ s.head?, isBlank c = false) := Option.decidableForallMem _
  have : Decidable (∀ c ∈ s.getLast?, isBlank c = false) := Option.decidableForallMem _
  decidable_of_iff _ stripped_iff.symm

theorem isBlank_of_mem_head?_dropWhile (h : c ∈ (s.dropWhile isBlank).head?) :
    isBlank c = false := by
  rw [← List.find?_not_eq_head?_dropWhile] at h
  simpa using List.find?_some h

theorem stripped_stripChars (s : List Char) : Stripped (stripChars s) where
  head c hc := by
    -- Blanks at the end are taken off last, so that the front is the one without blanks before it.
    have hprefix : stripChars s <+: s.dropWhile isBlank := by
      rw [stripChars, ← List.reverse_suffix, List.reverse_reverse]
      exact List.dropWhile_suffix _
    obtain ⟨w, hw⟩ := hprefix
    have hfront : c ∈ (s.dropWhile isBlank).head? := by
      rw [← hw, List.head?_append, Option.mem_def.1 hc]
      rfl
    exact isBlank_of_mem_head?_dropWhile hfront
  last c hc := by
    rw [stripChars, List.getLast?_reverse] at hc
    exact isBlank_of_mem_head?_dropWhile hc

theorem dropWhile_of_head (h : ∀ c ∈ s.head?, isBlank c = false) : s.dropWhile isBlank = s := by
  cases s with
  | nil => rfl
  | cons c rest => exact List.dropWhile_cons_of_neg (by rw [h c rfl]; exact Bool.false_ne_true)

theorem Stripped.stripChars_eq (h : Stripped s) : stripChars s = s := by
  have hreverse : s.reverse.dropWhile isBlank = s.reverse := by
    refine dropWhile_of_head fun c hc => h.last c ?_
    rwa [List.head?_reverse] at hc
  rw [stripChars, dropWhile_of_head h.head, hreverse, List.reverse_reverse]

/-! ## Pieces between blanks -/

section Cutting

variable (hc : isBlank c = false)
include hc

theorem map_stripChars_splitOn_left (hw : AllBlank w) (s : List Char) :
    ((w ++ s).splitOn c).map stripChars = (s.splitOn c).map stripChars := by
  by_cases hmem : c ∈ s
  · obtain ⟨first, rest, rfl, hfirst⟩ := List.eq_append_cons_of_mem hmem
    have hjoined : c ∉ w ++ first := fun h => (List.mem_append.1 h).elim (hw.notMem hc) hfirst
    rw [← List.append_assoc, List.splitOn_append_cons_self_of_not_mem hjoined,
      List.splitOn_append_cons_self_of_not_mem hfirst, List.map_cons, List.map_cons,
      stripChars_append_left hw]
  · have hjoined : c ∉ w ++ s := fun h => (List.mem_append.1 h).elim (hw.notMem hc) hmem
    rw [List.splitOn_eq_singleton hjoined, List.splitOn_eq_singleton hmem, List.map_singleton,
      List.map_singleton, stripChars_append_left hw]

theorem map_stripChars_splitOn_right (hw : AllBlank w) (s : List Char) :
    ((s ++ w).splitOn c).map stripChars = (s.splitOn c).map stripChars := by
  by_cases hmem : c ∈ s
  · obtain ⟨last, rest, hs, hlast⟩ := List.eq_append_cons_of_mem (List.mem_reverse.2 hmem)
    have hs : s = rest.reverse ++ c :: last.reverse := by
      rw [← s.reverse_reverse, hs, List.reverse_append, List.reverse_cons, List.append_assoc,
        List.singleton_append]
    rw [← List.mem_reverse] at hlast
    have hjoined : c ∉ last.reverse ++ w := fun h =>
      (List.mem_append.1 h).elim hlast (hw.notMem hc)
    rw [hs, List.append_assoc, List.cons_append, List.splitOn_append_cons_self,
      List.splitOn_append_cons_self, List.splitOn_eq_singleton hjoined,
      List.splitOn_eq_singleton hlast, List.map_append, List.map_append, List.map_singleton,
      List.map_singleton, stripChars_append_right hw]
  · have hjoined : c ∉ s ++ w := fun h => (List.mem_append.1 h).elim hmem (hw.notMem hc)
    rw [List.splitOn_eq_singleton hjoined, List.splitOn_eq_singleton hmem, List.map_singleton,
      List.map_singleton, stripChars_append_right hw]

/-- The pieces of a stripped text are those of the text, once they are stripped. -/
theorem map_stripChars_splitOn_stripChars (s : List Char) :
    ((stripChars s).splitOn c).map stripChars = (s.splitOn c).map stripChars := by
  obtain ⟨w, w', hw, hw', hs⟩ := exists_stripChars s
  have hleft := map_stripChars_splitOn_left hc hw (stripChars s ++ w')
  rw [map_stripChars_splitOn_right hc hw', ← hs] at hleft
  exact hleft.symm

end Cutting

end CommandTelemetry.Text
