import Mathlib.Data.List.Infix
import Mathlib.Data.List.TakeWhile
import CommandTelemetry.Text.Lowercase

/-!
# Lower case of a piece of a text

A text that has a piece in it need not, in lower case, have the lower case of that piece in it. The
one letter to blame is the capital sigma, whose form depends on its neighbours: at the end of a
piece it may be final there and not in the text, and at its front the other way round.

Whether that can happen is settled by the piece itself. `SettledFrom` asks of each capital sigma
that the search for a cased letter on either side of it ends within the piece, as far as the answer
matters. If so, the sigma has the same form wherever the piece stands. If not, two texts are enough
to tell: one that goes on with a cased letter where the piece ends, and one that has such a letter
in front of it. In one of them there are fewer sigmas of the one form, or of the other, than in the
lower case of the piece alone.
-/

namespace CommandTelemetry.Text

variable {before after s t p q : List Char} {c : Char}

/-! ## The search for a cased letter -/

/-- A character is there at which the search for a cased letter ends. -/
def Stops (s : List Char) : Prop := ∃ c ∈ s, isCaseIgnorable c = false

instance (s : List Char) : Decidable (Stops s) :=
  List.decidableBEx (isCaseIgnorable · = false) s

theorem dropWhile_ignorable_eq_nil (h : ¬Stops s) : s.dropWhile isCaseIgnorable = [] := by
  have hall : ∀ c ∈ s, isCaseIgnorable c = true := fun c hc =>
    Bool.of_not_eq_false fun hstop => h ⟨c, hc, hstop⟩
  exact List.dropWhile_eq_nil_iff.2 hall

/-- A search that ends within a piece does not see what is behind it. -/
theorem meetsCased_append_of_stops (h : Stops s) : meetsCased (s ++ t) = meetsCased s := by
  unfold meetsCased
  cases hdrop : s.dropWhile isCaseIgnorable with
  | nil =>
      obtain ⟨c, hc, hstop⟩ := h
      rw [List.dropWhile_eq_nil_iff.1 hdrop c hc] at hstop
      cases hstop
  | cons d rest =>
      rw [List.dropWhile_append, hdrop]
      rfl

theorem meetsCased_append_of_not_stops (h : ¬Stops s) : meetsCased (s ++ t) = meetsCased t := by
  unfold meetsCased
  rw [List.dropWhile_append, dropWhile_ignorable_eq_nil h]
  rfl

theorem meetsCased_of_not_stops (h : ¬Stops s) : meetsCased s = false := by
  unfold meetsCased
  rw [dropWhile_ignorable_eq_nil h]

/-! ## Final sigmas -/

/-- A capital sigma is final after `before`, nearest first, and ahead of `after`. -/
def isFinal (before after : List Char) : Bool := meetsCased before && !meetsCased after

theorem lowerAt_sigma (before after : List Char) :
    lowerAt before capitalSigma after = if isFinal before after then ['ς'] else ['σ'] := by
  rw [lowerAt, if_pos rfl, isFinal]

/-- Other characters have their lower case wherever they stand. -/
theorem lowerAt_of_ne (h : c ≠ capitalSigma) (before after before' after' : List Char) :
    lowerAt before c after = lowerAt before' c after' := by
  rw [lowerAt, if_neg h, lowerAt, if_neg h]

/-- What stands next to a capital sigma in a piece of a text decides whether it is final: a cased
letter follows, or none follows and both searches end, or the one to the front ends without one. -/
def SettledAt (before after : List Char) : Prop :=
  meetsCased after = true ∨ Stops before ∧ (meetsCased before = false ∨ Stops after)

instance (before after : List Char) : Decidable (SettledAt before after) :=
  inferInstanceAs (Decidable (_ ∨ _))

theorem isFinal_of_settledAt (h : SettledAt before after) (p q : List Char) :
    isFinal (before ++ p) (after ++ q) = isFinal before after := by
  unfold isFinal
  by_cases hafter : Stops after
  · rw [meetsCased_append_of_stops hafter]
    rcases h with hcased | ⟨hbefore, -⟩
    · simp only [hcased, Bool.not_true, Bool.and_false]
    · rw [meetsCased_append_of_stops hbefore]
  · rcases h with hcased | ⟨hbefore, hnot | hstops⟩
    · rw [meetsCased_of_not_stops hafter] at hcased
      cases hcased
    · rw [meetsCased_append_of_stops hbefore, hnot, Bool.false_and, Bool.false_and]
    · exact absurd hstops hafter

/-- At `A` a search ends with a cased letter, and at `1` it ends without one. -/
theorem meetsCased_letter : meetsCased ['A'] = true := by decide +kernel

theorem meetsCased_digit : meetsCased ['1'] = false := by decide +kernel

theorem meetsCased_append_digit (s : List Char) : meetsCased (s ++ ['1']) = meetsCased s := by
  by_cases h : Stops s
  · exact meetsCased_append_of_stops h
  · rw [meetsCased_append_of_not_stops h, meetsCased_of_not_stops h, meetsCased_digit]

theorem meetsCased_append_letter (s : List Char) :
    meetsCased (s ++ ['A']) = (meetsCased s || !decide (Stops s)) := by
  by_cases h : Stops s
  · rw [meetsCased_append_of_stops h, decide_eq_true h, Bool.not_true, Bool.or_false]
  · rw [meetsCased_append_of_not_stops h, meetsCased_letter, decide_eq_false h, Bool.not_false,
      Bool.or_true]

/-- A letter in front makes more sigmas final and none less. -/
theorem isFinal_letter_digit (h : isFinal before after = true) :
    isFinal (before ++ ['A']) (after ++ ['1']) = true := by
  rw [isFinal, Bool.and_eq_true] at h
  rw [isFinal, meetsCased_append_letter, meetsCased_append_digit, h.1, h.2]
  rfl

/-- A letter behind makes fewer sigmas final and none more. -/
theorem isFinal_of_digit_letter (h : isFinal (before ++ ['1']) (after ++ ['A']) = true) :
    isFinal before after = true := by
  rw [isFinal, meetsCased_append_digit, meetsCased_append_letter, Bool.not_or, Bool.and_eq_true,
    Bool.and_eq_true] at h
  rw [isFinal, h.1, h.2.1]
  rfl

/-- Where a sigma is not settled, one of the two letters makes a difference. -/
theorem isFinal_changes (h : ¬SettledAt before after) :
    isFinal before after = false ∧ isFinal (before ++ ['A']) (after ++ ['1']) = true ∨
      isFinal before after = true ∧ isFinal (before ++ ['1']) (after ++ ['A']) = false := by
  rw [SettledAt, not_or, not_and_or, not_or] at h
  obtain ⟨hafter, hbefore | ⟨hcased, hafter'⟩⟩ := h
  · rw [Bool.not_eq_true] at hafter
    refine .inl ⟨?_, ?_⟩
    · rw [isFinal, meetsCased_of_not_stops hbefore, Bool.false_and]
    · rw [isFinal, meetsCased_append_letter, meetsCased_append_digit, decide_eq_false hbefore,
        hafter, Bool.not_false, Bool.or_true, Bool.and_true]
  · rw [Bool.not_eq_true] at hafter
    rw [Bool.not_eq_false] at hcased
    refine .inr ⟨?_, ?_⟩
    · rw [isFinal, hcased, hafter]
      rfl
    · rw [isFinal, meetsCased_append_letter, decide_eq_false hafter', Bool.not_false, Bool.or_true,
        Bool.not_true, Bool.and_false]

/-! ## Pieces -/

/-- The lower case of a piece of a text that stands after `before`, nearest first, and ahead of
`after`. -/
def lowerWithin (before : List Char) : List Char → List Char → List Char
  | [], _ => []
  | c :: rest, after => lowerAt before c (rest ++ after) ++ lowerWithin (c :: before) rest after

theorem lowerFrom_append (before s t : List Char) :
    lowerFrom before (s ++ t) = lowerWithin before s t ++ lowerFrom (s.reverse ++ before) t := by
  induction s generalizing before with
  | nil => rfl
  | cons c rest ih =>
      rw [List.cons_append, lowerFrom, ih, lowerWithin, List.append_assoc, List.reverse_cons,
        List.append_assoc, List.singleton_append]

theorem lowerWithin_nil (before s : List Char) : lowerWithin before s [] = lowerFrom before s := by
  have happend := lowerFrom_append before s []
  rw [List.append_nil, lowerFrom, List.append_nil] at happend
  exact happend.symm

/-- Every capital sigma of a piece is settled within the piece. -/
def SettledFrom (before : List Char) : List Char → Prop
  | [] => True
  | c :: rest => (c = capitalSigma → SettledAt before rest) ∧ SettledFrom (c :: before) rest

def decidableSettledFrom : (before s : List Char) → Decidable (SettledFrom before s)
  | _, [] => .isTrue trivial
  | before, c :: rest =>
    have := decidableSettledFrom (c :: before) rest
    inferInstanceAs (Decidable ((c = capitalSigma → SettledAt before rest) ∧ _))

instance (before s : List Char) : Decidable (SettledFrom before s) := decidableSettledFrom before s

def Settled (s : List Char) : Prop := SettledFrom [] s

instance (s : List Char) : Decidable (Settled s) := inferInstanceAs (Decidable (SettledFrom [] s))

theorem settledFrom_of_notMem (h : capitalSigma ∉ s) : SettledFrom before s := by
  induction s generalizing before with
  | nil => trivial
  | cons c rest ih =>
      rw [List.mem_cons, not_or] at h
      exact ⟨fun hc => absurd hc.symm h.1, ih h.2⟩

theorem settled_of_notMem (h : capitalSigma ∉ s) : Settled s := settledFrom_of_notMem h

theorem lowerWithin_of_settledFrom (h : SettledFrom before s) (p q : List Char) :
    lowerWithin (before ++ p) s q = lowerWithin before s [] := by
  induction s generalizing before with
  | nil => rfl
  | cons c rest ih =>
      obtain ⟨hc, hrest⟩ := h
      rw [lowerWithin, lowerWithin, ← List.cons_append, ih hrest, List.append_nil]
      by_cases hsigma : c = capitalSigma
      · rw [hsigma, lowerAt_sigma, lowerAt_sigma, isFinal_of_settledAt (hc hsigma)]
      · rw [lowerAt_of_ne hsigma (before ++ p) (rest ++ q) before rest]

/-! ## Counting sigmas -/

theorem count_lowerAt_sigma (before after : List Char) :
    (lowerAt before capitalSigma after).count 'σ' = (if isFinal before after then 0 else 1) ∧
      (lowerAt before capitalSigma after).count 'ς' = if isFinal before after then 1 else 0 := by
  rw [lowerAt_sigma]
  cases isFinal before after <;> exact ⟨rfl, rfl⟩

/-- If what surrounds a text takes letters away from its sigmas, it does so from all of it. -/
theorem count_lowerAt_le {x : Char}
    (h : ∀ before after, (lowerAt (before ++ p) capitalSigma (after ++ q)).count x ≤
      (lowerAt before capitalSigma after).count x) (before after : List Char) (c : Char) :
    (lowerAt (before ++ p) c (after ++ q)).count x ≤ (lowerAt before c after).count x := by
  by_cases hsigma : c = capitalSigma
  · rw [hsigma]
    exact h before after
  · rw [lowerAt_of_ne hsigma (before ++ p) (after ++ q) before after]

theorem count_lowerWithin_le {x : Char}
    (h : ∀ before after, (lowerAt (before ++ p) capitalSigma (after ++ q)).count x ≤
      (lowerAt before capitalSigma after).count x) (before s : List Char) :
    (lowerWithin (before ++ p) s q).count x ≤ (lowerWithin before s []).count x := by
  induction s generalizing before with
  | nil => exact Nat.le_refl _
  | cons c rest ih =>
      rw [lowerWithin, lowerWithin, List.count_append, List.count_append, ← List.cons_append,
        List.append_nil]
      exact Nat.add_le_add (count_lowerAt_le h before rest c) (ih (c :: before))

theorem count_sigma_le (before after : List Char) :
    (lowerAt (before ++ ['A']) capitalSigma (after ++ ['1'])).count 'σ' ≤
      (lowerAt before capitalSigma after).count 'σ' := by
  rw [(count_lowerAt_sigma _ _).1, (count_lowerAt_sigma _ _).1]
  by_cases h : isFinal before after = true
  · rw [if_pos (isFinal_letter_digit h)]
    exact Nat.zero_le _
  · rw [if_neg h]
    split <;> decide

theorem count_finalSigma_le (before after : List Char) :
    (lowerAt (before ++ ['1']) capitalSigma (after ++ ['A'])).count 'ς' ≤
      (lowerAt before capitalSigma after).count 'ς' := by
  rw [(count_lowerAt_sigma _ _).2, (count_lowerAt_sigma _ _).2]
  by_cases h : isFinal (before ++ ['1']) (after ++ ['A']) = true
  · rw [if_pos h, if_pos (isFinal_of_digit_letter h)]
  · rw [if_neg h]
    exact Nat.zero_le _

/-- Around a piece that is not settled, a letter takes away a sigma of one form or of the other. -/
theorem count_lt_of_not_settledFrom (h : ¬SettledFrom before s) :
    (lowerWithin (before ++ ['A']) s ['1']).count 'σ' < (lowerWithin before s []).count 'σ' ∨
      (lowerWithin (before ++ ['1']) s ['A']).count 'ς' <
        (lowerWithin before s []).count 'ς' := by
  induction s generalizing before with
  | nil => exact absurd trivial h
  | cons c rest ih =>
      simp only [lowerWithin, List.count_append, List.append_nil]
      rw [SettledFrom, not_and_or, Classical.not_imp] at h
      rcases h with ⟨rfl, hc⟩ | hrest
      · -- The sigma in front makes the difference, and those behind it make it no smaller.
        have hsigmas := count_lowerWithin_le count_sigma_le (capitalSigma :: before) rest
        have hfinals := count_lowerWithin_le count_finalSigma_le (capitalSigma :: before) rest
        simp only [(count_lowerAt_sigma _ _).1, (count_lowerAt_sigma _ _).2]
        rcases isFinal_changes hc with ⟨hbefore, hafter⟩ | ⟨hbefore, hafter⟩
        · left
          rw [hbefore, hafter]
          exact Nat.add_lt_add_of_lt_of_le Nat.zero_lt_one hsigmas
        · right
          rw [hbefore, hafter]
          exact Nat.add_lt_add_of_lt_of_le Nat.zero_lt_one hfinals
      · have hsigma := count_lowerAt_le count_sigma_le before rest c
        have hfinal := count_lowerAt_le count_finalSigma_le before rest c
        exact (ih hrest).imp (Nat.add_lt_add_of_le_of_lt hsigma) (Nat.add_lt_add_of_le_of_lt hfinal)

/-! ## Pieces of texts -/

theorem lowerChars_around (p s q : List Char) :
    lowerChars (p ++ (s ++ q)) =
      lowerWithin [] p (s ++ q) ++
        (lowerWithin p.reverse s q ++ lowerFrom (s.reverse ++ p.reverse) q) := by
  rw [lowerChars, lowerFrom_append, lowerFrom_append, List.append_nil]

theorem lowerAt_letter (before after : List Char) : lowerAt before 'A' after = ['a'] := by
  rw [lowerAt_of_ne (by decide) before after [] []]
  decide

theorem lowerAt_digit (before after : List Char) : lowerAt before '1' after = ['1'] := by
  rw [lowerAt_of_ne (by decide) before after [] []]
  decide

theorem lowerChars_letter_digit (s : List Char) :
    lowerChars (['A'] ++ (s ++ ['1'])) = 'a' :: (lowerWithin ['A'] s ['1'] ++ ['1']) := by
  rw [lowerChars_around, lowerWithin, lowerWithin, lowerAt_letter, lowerFrom, lowerFrom,
    lowerAt_digit]
  rfl

theorem lowerChars_digit_letter (s : List Char) :
    lowerChars (['1'] ++ (s ++ ['A'])) = '1' :: (lowerWithin ['1'] s ['A'] ++ ['a']) := by
  rw [lowerChars_around, lowerWithin, lowerWithin, lowerAt_digit, lowerFrom, lowerFrom,
    lowerAt_letter]
  rfl

/-- A piece can be found again in the lower case of every text that has it in it exactly if its
capital sigmas are settled. -/
theorem settled_iff :
    Settled s ↔ ∀ text, s <:+: text → lowerChars s <:+: lowerChars text := by
  constructor
  · rintro h text ⟨p, q, rfl⟩
    have hpiece := lowerWithin_of_settledFrom h p.reverse q
    rw [List.nil_append, lowerWithin_nil, ← lowerChars] at hpiece
    rw [List.append_assoc, lowerChars_around, hpiece]
    exact ⟨_, _, List.append_assoc _ _ _⟩
  · intro h
    by_contra hsettled
    have hcount : ∀ x p q, (lowerChars s).count x ≤ (lowerChars (p ++ (s ++ q))).count x :=
      fun x p q => (h _ ⟨p, q, List.append_assoc _ _ _⟩).sublist.count_le x
    have hletter := hcount 'σ' ['A'] ['1']
    have hdigit := hcount 'ς' ['1'] ['A']
    rw [lowerChars_letter_digit, List.count_cons_of_ne (by decide), List.count_append] at hletter
    rw [lowerChars_digit_letter, List.count_cons_of_ne (by decide), List.count_append] at hdigit
    rcases count_lt_of_not_settledFrom hsettled with hlt | hlt
    · rw [List.nil_append, lowerWithin_nil, ← lowerChars] at hlt
      exact Nat.not_le_of_lt hlt hletter
    · rw [List.nil_append, lowerWithin_nil, ← lowerChars] at hlt
      exact Nat.not_le_of_lt hlt hdigit

end CommandTelemetry.Text
