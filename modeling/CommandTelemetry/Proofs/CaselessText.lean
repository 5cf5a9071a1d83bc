import CommandTelemetry.Text.Lowercase

/-!
# Characters without case

Most characters have no case: they are in no run of capital letters, and no capital letter becomes
one of them. Lower case neither takes them away nor brings them in, wherever they stand. So what a
text is made of can be read off its lower-case form, as far as such characters go, and a text that
has no others is its own lower-case form.

Whether a range of characters has no case is a fact about the table of runs, which is decided once
for the ranges that matter.
-/

namespace CommandTelemetry.Text

variable {ranges : List CodeRange} {c d : Char} {s before after : List Char}

/-- The characters that lower case turns into other ones, and those that it turns them into. -/
def CaseRun.spans (run : CaseRun) : List CodeRange :=
  [(run.first, run.last), (run.lower, run.lower + (run.last - run.first))]

def casedSpans : List CodeRange :=
  -- the sigmas, and what becomes of the capital I with a dot
  [(0x3C2, 0x3C3), (0x3A3, 0x3A3), (0x130, 0x130), (0x69, 0x69), (0x307, 0x307)] ++
    caseRuns.flatMap CaseRun.spans

/-- No character of the ranges has to do with case. -/
def Caseless (ranges : List CodeRange) : Prop :=
  ∀ r ∈ ranges, ∀ span ∈ casedSpans, r.2 < span.1 ∨ span.2 < r.1

/-- `Caseless` as the kernel computes it, which goes through the table once. -/
def isCaseless (ranges : List CodeRange) : Bool :=
  casedSpans.all fun span => ranges.all fun r => Nat.blt r.2 span.1 || Nat.blt span.2 r.1

theorem isCaseless_iff : isCaseless ranges = true ↔ Caseless ranges := by
  simp only [isCaseless, List.all_eq_true, Bool.or_eq_true, Nat.blt_eq]
  exact ⟨fun h r hr span hspan => h span hspan r hr, fun h span hspan r hr => h r hr span hspan⟩

instance (ranges : List CodeRange) : Decidable (Caseless ranges) :=
  decidable_of_decidable_of_iff isCaseless_iff

theorem inRanges_iff {n : Nat} : inRanges ranges n = true ↔ ∃ r ∈ ranges, r.1 ≤ n ∧ n ≤ r.2 := by
  simp [inRanges]

theorem Caseless.not_inRanges (h : Caseless ranges) {n : Nat} (hn : inRanges casedSpans n = true) :
    ¬inRanges ranges n = true := by
  rw [inRanges_iff] at hn ⊢
  rintro ⟨r, hr, hle, hge⟩
  obtain ⟨span, hspan, hle', hge'⟩ := hn
  rcases h r hr span hspan with hlt | hlt <;> omega

theorem mem_casedSpans {run : CaseRun} (hrun : run ∈ caseRuns) {span : CodeRange}
    (hspan : span ∈ run.spans) : span ∈ casedSpans :=
  List.mem_append_right _ (List.mem_flatMap.2 ⟨run, hrun, hspan⟩)

/-- The lower-case form of every capital letter of a run is a character. -/
theorem isValidChar_of_run : ∀ run ∈ caseRuns,
    run.lower + (run.last - run.first) < 0xD800 ∨
      (0xDFFF < run.lower ∧ run.lower + (run.last - run.first) < 0x110000) := by
  decide +kernel

theorem toNat_ofNat {n : Nat} (h : n.isValidChar) : (Char.ofNat n).toNat = n := by
  rw [Char.ofNat, dif_pos h]
  rfl

theorem toLower_cases : ∀ n < 0x80, (Char.ofNat n).toLower = Char.ofNat n ∨
    inRanges casedSpans n = true ∧ inRanges casedSpans (Char.ofNat n).toLower.toNat = true := by
  decide +kernel

/-- A character that lower case changes has to do with case, and so has the one it becomes. -/
theorem lowerChar_cases (c : Char) :
    lowerChar c = c ∨
      inRanges casedSpans c.toNat = true ∧ inRanges casedSpans (lowerChar c).toNat = true := by
  unfold lowerChar
  split
  · next hascii =>
      have hcases := toLower_cases c.toNat hascii
      rwa [Char.ofNat_toNat] at hcases
  · split
    · next run hrun =>
        have hmem := List.mem_of_find?_eq_some hrun
        have hcovers := List.find?_some hrun
        simp only [CaseRun.covers, Bool.and_eq_true, decide_eq_true_eq] at hcovers
        obtain ⟨⟨hfirst, hlast⟩, -⟩ := hcovers
        refine .inr ⟨inRanges_iff.2 ⟨_, mem_casedSpans hmem List.mem_cons_self, hfirst, hlast⟩,
          inRanges_iff.2 ⟨_, mem_casedSpans hmem (List.mem_cons_of_mem _ List.mem_cons_self), ?_⟩⟩
        have hvalid : (run.lower + (c.toNat - run.first)).isValidChar := by
          rcases isValidChar_of_run run hmem with h | h
          · exact .inl (by omega)
          · exact .inr (by omega)
        rw [toNat_ofNat hvalid]
        exact ⟨by simp only []; omega, by simp only []; omega⟩
    · exact .inl rfl

theorem lowerAt_of_caseless (h : Caseless ranges) (hc : inRanges ranges c.toNat = true) :
    lowerAt before c after = [c] := by
  have hnot : ¬inRanges casedSpans c.toNat = true := fun hcased => h.not_inRanges hcased hc
  have hsigma : c ≠ capitalSigma := fun heq => hnot (by rw [heq]; decide)
  have hdotted : c ≠ capitalDottedI := fun heq => hnot (by rw [heq]; decide)
  rw [lowerAt, if_neg hsigma, if_neg hdotted,
    (lowerChar_cases c).resolve_right fun hcased => hnot hcased.1]

/-- Any other character becomes characters of which this can be said as well. -/
theorem lowerAt_of_not_caseless (h : Caseless ranges) (hc : ¬inRanges ranges c.toNat = true)
    (hd : d ∈ lowerAt before c after) : ¬inRanges ranges d.toNat = true := by
  unfold lowerAt at hd
  split at hd
  · refine h.not_inRanges ?_
    split at hd <;> rw [List.mem_singleton.1 hd] <;> decide
  · split at hd
    · refine h.not_inRanges ?_
      rcases List.mem_cons.1 hd with rfl | hd
      · decide
      · rw [List.mem_singleton.1 hd]
        decide
    · rw [List.mem_singleton.1 hd]
      rcases lowerChar_cases c with heq | ⟨-, hcased⟩
      · rwa [heq]
      · exact h.not_inRanges hcased

theorem lowerAt_ne_nil (before : List Char) (c : Char) (after : List Char) :
    lowerAt before c after ≠ [] := by
  unfold lowerAt
  split
  · split <;> simp
  · split <;> simp

theorem lowerFrom_of_caseless (h : Caseless ranges)
    (hs : ∀ c ∈ s, inRanges ranges c.toNat = true) : lowerFrom before s = s := by
  induction s generalizing before with
  | nil => rfl
  | cons c rest ih =>
      rw [lowerFrom, lowerAt_of_caseless h (hs c List.mem_cons_self),
        ih fun d hd => hs d (List.mem_cons_of_mem _ hd), List.singleton_append]

theorem lowerFrom_of_not_caseless (h : Caseless ranges)
    (hs : ∀ c ∈ s, ¬inRanges ranges c.toNat = true) (hd : d ∈ lowerFrom before s) :
    ¬inRanges ranges d.toNat = true := by
  induction s generalizing before with
  | nil => cases hd
  | cons c rest ih =>
      rcases List.mem_append.1 hd with hd | hd
      · exact lowerAt_of_not_caseless h (hs c List.mem_cons_self) hd
      · exact ih (fun e he => hs e (List.mem_cons_of_mem _ he)) hd

theorem inRanges_of_lowerFrom (h : Caseless ranges)
    (hs : ∀ d ∈ lowerFrom before s, inRanges ranges d.toNat = true) :
    ∀ c ∈ s, inRanges ranges c.toNat = true := by
  induction s generalizing before with
  | nil => intro c hc; cases hc
  | cons c rest ih =>
      rw [lowerFrom, List.forall_mem_append] at hs
      refine List.forall_mem_cons.2 ⟨?_, ih hs.2⟩
      refine Decidable.byContradiction fun hc => ?_
      obtain ⟨d, hd⟩ := List.exists_mem_of_ne_nil _ (lowerAt_ne_nil before c rest)
      exact lowerAt_of_not_caseless h hc hd (hs.1 d hd)

theorem not_inRanges_lowerChars (h : Caseless ranges)
    (hs : ∀ c ∈ s, ¬inRanges ranges c.toNat = true) :
    ∀ d ∈ lowerChars s, ¬inRanges ranges d.toNat = true :=
  fun _ hd => lowerFrom_of_not_caseless h hs hd

/-- A text that has other characters keeps some in lower case, and one that has none stays. -/
theorem lowerChars_eq_self_of_inRanges (h : Caseless ranges)
    (hs : ∀ d ∈ lowerChars s, inRanges ranges d.toNat = true) : lowerChars s = s :=
  lowerFrom_of_caseless h (inRanges_of_lowerFrom h hs)

end CommandTelemetry.Text
