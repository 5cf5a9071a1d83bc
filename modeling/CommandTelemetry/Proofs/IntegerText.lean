import CommandTelemetry.Numeral.Reader
import CommandTelemetry.Proofs.CaselessText

/-!
# Integers in lower case

One reader of a variable lowers the case of its text before it reads an integer there, another one
does not. They agree on every text, because an integer text is made of characters without case: if
it reads at all then it is its own lower-case form, and if it does not then some character stands in
the way, of which lower case leaves something behind.
-/

namespace CommandTelemetry.Numeral

open Text

variable {s : List Char} {c : Char}

/-- The characters of integer texts: blanks, signs, underscores, and digits of any script. -/
def integerRanges : List CodeRange :=
  [(0x2B, 0x2B), (0x2D, 0x2D), (0x5F, 0x5F)] ++ blankRanges ++ digitZeros.map fun z => (z, z + 9)

theorem integerRanges_caseless : Caseless integerRanges := by decide +kernel

def IsIntegerChar (c : Char) : Prop := inRanges integerRanges c.toNat = true

instance (c : Char) : Decidable (IsIntegerChar c) :=
  inferInstanceAs (Decidable (inRanges integerRanges c.toNat = true))

theorem isIntegerChar_of_blank (h : isBlank c = true) : IsIntegerChar c := by
  obtain ⟨r, hr, hc⟩ := inRanges_iff.1 h
  exact inRanges_iff.2 ⟨r, List.mem_append_left _ (List.mem_append_right _ hr), hc⟩

theorem isIntegerChar_of_digit (h : (digitValue? c).isSome = true) : IsIntegerChar c := by
  rw [digitValue?, Option.isSome_map, List.find?_isSome] at h
  obtain ⟨z, hz, hc⟩ := h
  simp only [Bool.and_eq_true, decide_eq_true_eq] at hc
  exact inRanges_iff.2 ⟨(z, z + 9), List.mem_append_right _ (List.mem_map_of_mem hz), hc.1,
    Nat.le_of_lt_succ hc.2⟩

theorem isBlank_of_numberBlank (h : numberBlank s c = true) : isBlank c = true := by
  unfold numberBlank at h
  split at h
  · simp only [Bool.or_eq_true, beq_iff_eq, Bool.and_eq_true, decide_eq_true_eq] at h
    refine inRanges_iff.2 ?_
    rcases h with h | h
    · exact ⟨(0x1C, 0x20), by decide, by simp only []; omega⟩
    · exact ⟨(0x9, 0xD), by decide, h⟩
  · exact h

theorem mem_dropWhile_or {p : Char → Bool} (h : c ∈ s) : c ∈ s.dropWhile p ∨ p c = true := by
  rw [← List.takeWhile_append_dropWhile (p := p) (l := s)] at h
  rcases List.mem_append.1 h with h | h
  · exact .inr (List.all_eq_true.1 List.all_takeWhile c h)
  · exact .inl h

theorem mem_trimNumber_or (h : c ∈ s) : c ∈ trimNumber s ∨ IsIntegerChar c := by
  have hblank : numberBlank s c = true → IsIntegerChar c := fun hc =>
    isIntegerChar_of_blank (isBlank_of_numberBlank hc)
  rcases mem_dropWhile_or (p := numberBlank s) h with h | h
  · rcases mem_dropWhile_or (p := numberBlank s) (List.mem_reverse.2 h) with h | h
    · exact .inl (List.mem_reverse.2 h)
    · exact .inr (hblank h)
  · exact .inr (hblank h)

theorem mem_takeSign_or (h : c ∈ s) : c ∈ (takeSign s).2 ∨ IsIntegerChar c := by
  unfold takeSign
  split
  · rcases List.mem_cons.1 h with rfl | h
    · exact .inr (by decide)
    · exact .inl h
  · rcases List.mem_cons.1 h with rfl | h
    · exact .inr (by decide)
    · exact .inl h
  · exact .inl h

/-- Digits that are taken up to the end are all there is, but for underscores. -/
theorem isIntegerChar_of_takeDigits (h : (takeDigits s).2 = []) : ∀ c ∈ s, IsIntegerChar c := by
  fun_induction takeDigits s with
  | case1 c r d hd more ih =>
      refine List.forall_mem_cons.2 ⟨by decide, List.forall_mem_cons.2 ⟨?_, ih h⟩⟩
      exact isIntegerChar_of_digit (by rw [hd]; rfl)
  | case2 c r hd => cases h
  | case3 c r hnot d hd more ih =>
      exact List.forall_mem_cons.2 ⟨isIntegerChar_of_digit (by rw [hd]; rfl), ih h⟩
  | case4 c r hnot hd => cases h
  | case5 => exact List.forall_mem_nil _

theorem isIntegerChar_of_takeDigitRun (h : (takeDigitRun s).2 = []) : ∀ c ∈ s, IsIntegerChar c := by
  unfold takeDigitRun at h
  split at h
  · cases h
  · exact isIntegerChar_of_takeDigits h

/-- A text that reads as an integer, be it one with too many digits, has no other characters. -/
theorem isIntegerChar_of_readInteger {s : String} (h : readInteger s ≠ .malformed) :
    ∀ c ∈ s.toList, IsIntegerChar c := by
  have hrest : (takeDigitRun (takeSign (trimNumber s.toList)).2).2 = [] := by
    unfold readInteger at h
    split at h
    next negative body hsign =>
      rw [hsign]
      split at h
      · exact absurd rfl h
      · next hrun => rw [hrun]
      · exact absurd rfl h
  intro c hc
  rcases mem_trimNumber_or hc with hc | hc
  · rcases mem_takeSign_or hc with hc | hc
    · exact isIntegerChar_of_takeDigitRun hrest c hc
    · exact hc
  · exact hc

/-- Lower case makes no difference to what is read. -/
theorem readInteger_lower (s : String) : readInteger (lower s) = readInteger s := by
  by_cases h : ∀ c ∈ lowerChars s.toList, IsIntegerChar c
  · have hsame := lowerChars_eq_self_of_inRanges integerRanges_caseless h
    rw [lower, hsame, String.ofList_toList]
  · have hlower : readInteger (lower s) = .malformed := by
      refine Decidable.byContradiction fun hread => h ?_
      have hchars := isIntegerChar_of_readInteger hread
      rwa [lower, String.toList_ofList] at hchars
    have hraw : readInteger s = .malformed := by
      refine Decidable.byContradiction fun hread => h ?_
      have hchars := isIntegerChar_of_readInteger hread
      have hsame : lowerChars s.toList = s.toList :=
        lowerFrom_of_caseless integerRanges_caseless hchars
      rwa [hsame]
    rw [hlower, hraw]

end CommandTelemetry.Numeral
