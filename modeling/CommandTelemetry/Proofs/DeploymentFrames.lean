import CommandTelemetry.Proofs.DeploymentLevels

/-!
# The frames of a failed deployment

The frame of an entry tells how deep its level is, where only levels with a code count. The number
is handed down the recursion and shared by all branches below a line, so it rises and falls along
the entries: it falls back wherever a branch ends and the next one starts.

Two facts keep it from leaving gaps. Below a level every branch starts over with the same number,
and no entry of a branch has a smaller one. So a new branch starts no higher than the last one
ended, and only going down from a level with a code raises the number, by one. `Gapless` is this
invariant with the number it starts from. It composes over branches and over levels, so it holds of
a whole tree by induction, and a list that rises by at most one each time reaches every number on
its way.
-/

namespace CommandTelemetry.Failure

open Relation

/-! ## Levels above -/

/-- The levels above an address are those at its proper prefixes. -/
theorem mem_above_iff (p q : Address) : q ∈ Address.above p ↔ q <+: p ∧ q ≠ p := by
  induction p generalizing q with
  | nil =>
      rw [List.prefix_nil]
      exact iff_of_false List.not_mem_nil fun ⟨h, hne⟩ => hne h
  | cons i p ih =>
      rw [above_cons, List.mem_cons, List.mem_map]
      cases q with
      | nil => exact iff_of_true (.inl rfl) ⟨List.nil_prefix, (List.cons_ne_nil i p).symm⟩
      | cons j q =>
          rw [List.cons_prefix_cons]
          constructor
          · rintro (h | ⟨r, hr, h⟩)
            · cases h
            · obtain ⟨rfl, rfl⟩ := List.cons.inj h
              obtain ⟨hstart, hne⟩ := (ih r).1 hr
              exact ⟨⟨rfl, hstart⟩, fun h => hne (List.cons.inj h).2⟩
          · rintro ⟨⟨rfl, hstart⟩, hne⟩
            exact .inr ⟨q, (ih q).2 ⟨hstart, fun h => hne (congrArg _ h)⟩, rfl⟩

theorem nodup_above (p : Address) : (Address.above p).Nodup := by
  induction p with
  | nil => exact List.nodup_nil
  | cons i p ih =>
      rw [above_cons, List.nodup_cons]
      refine ⟨fun h => ?_, ih.map fun q r h => (List.cons.inj h).2⟩
      obtain ⟨q, -, hq⟩ := List.mem_map.1 h
      cases hq

/-! ## No gaps -/

/-- The frames of entries start at a number, never fall below it and rise by at most one. -/
structure Gapless (frame : Nat) (entries : List DeploymentCode) : Prop where
  first : ∀ c ∈ entries.head?, c.frame = frame
  rises : entries.IsChain fun c d => d.frame ≤ c.frame + 1
  least : ∀ c ∈ entries, frame ≤ c.frame

section

variable {frame n : Nat} {xs ys entries : List DeploymentCode} {c : DeploymentCode}

theorem Gapless.nil : Gapless frame [] where
  first := nofun
  rises := List.isChain_nil
  least := nofun

/-- One branch after the other: the second one starts where the first one did. -/
theorem Gapless.append (hx : Gapless frame xs) (hy : Gapless frame ys) :
    Gapless frame (xs ++ ys) where
  first := by
    cases xs with
    | nil => exact hy.first
    | cons c xs => exact fun d hd => hx.first d hd
  rises := by
    refine List.isChain_append.2 ⟨hx.rises, hy.rises, fun c hc d hd => ?_⟩
    have hleast := hx.least c (List.mem_of_getLast? hc)
    rw [hy.first d hd]
    omega
  least := fun c hc => (List.mem_append.1 hc).elim (hx.least c) (hy.least c)

/-- One level on top of what is below it. -/
theorem Gapless.cons (h : Gapless (frame + 1) entries) (code : String) :
    Gapless frame (⟨code, frame⟩ :: entries) where
  first := fun c hc => by rw [← Option.some.inj hc]
  rises := List.isChain_cons.2 ⟨fun d hd => (h.first d hd).le, h.rises⟩
  least := fun c hc => by
    rcases List.mem_cons.1 hc with rfl | hc
    · exact le_rfl
    · have hleast := h.least c hc
      omega

theorem Gapless.flatMap {α : Type} {f : α → List DeploymentCode} {branches : List α}
    (h : ∀ b ∈ branches, Gapless frame (f b)) : Gapless frame (branches.flatMap f) := by
  induction branches with
  | nil => exact .nil
  | cons b rest ih =>
      obtain ⟨hb, hrest⟩ := List.forall_mem_cons.1 h
      rw [List.flatMap_cons]
      exact hb.append (ih hrest)

theorem gapless_levelEntries (lines : Level) (frame : Nat) :
    Gapless frame (levelEntries frame lines) := by
  induction lines using level_induction generalizing frame with
  | step lines ih =>
      have hinner : ∀ frame, Gapless frame (innerEntries frame lines) := by
        intro frame
        rw [innerEntries_eq]
        exact .flatMap fun l hl => ih l (List.reduceOption_mem_iff.1 hl) frame
      by_cases hcoded : lines.Coded
      · rw [levelEntries_of_coded hcoded]
        exact (hinner (frame + 1)).cons _
      · rw [levelEntries_of_not_coded hcoded]
        exact hinner frame

/-- Frames that rise by at most one reach every number between the first and any other one. -/
theorem exists_frame_eq (hrises : entries.IsChain fun c d => d.frame ≤ c.frame + 1)
    (hfirst : ∀ c ∈ entries.head?, c.frame ≤ n) (hc : c ∈ entries) (hn : n ≤ c.frame) :
    ∃ d ∈ entries, d.frame = n := by
  induction entries with
  | nil => cases hc
  | cons d rest ih =>
      obtain ⟨hnext, hrest⟩ := List.isChain_cons.1 hrises
      have hd : d.frame ≤ n := hfirst d rfl
      rcases hd.eq_or_lt with heq | hlt
      · exact ⟨d, List.mem_cons_self, heq⟩
      · have hmem : c ∈ rest := by
          rcases List.mem_cons.1 hc with rfl | hmem
          · omega
          · exact hmem
        have hfirst' : ∀ e ∈ rest.head?, e.frame ≤ n := fun e he => (hnext e he).trans hlt
        obtain ⟨e, he, heq⟩ := ih hrest hfirst' hmem
        exact ⟨e, List.mem_cons_of_mem d he, heq⟩

end

/-! ## Wrapping -/

/-- A level is put below a line without a code, which takes its place. -/
def Wrapping (lines lines' : Level) : Prop := ∃ message, lines' = [some (.line "" message lines)]

theorem Wrapping.sameEntries (lines lines' : Level) (h : Wrapping lines lines') :
    SameEntries lines lines' := by
  obtain ⟨message, rfl⟩ := h
  intro frame
  have hcoded : ¬ Level.Coded [some (.line "" message lines)] := fun h => h rfl
  rw [levelEntries_of_not_coded hcoded, innerEntries_cons, innerEntries, List.append_nil,
    DeploymentLine.inner]

/-- Frames are exact. The entry of a level counts the levels above it that have a code, which are
those at the proper prefixes of its address. So the first frame is zero, each next one is larger by
at most one, and no number is skipped up to the largest. A level that is put below a line without a
code, anywhere and any number of times, keeps its frame and everything else. -/
theorem deploymentCodes_frames (root : Option DeploymentLine) :
    deploymentCodes root =
      ((addresses [root]).filter (Level.CodedAt [root] ·)).map
        (fun p => ⟨",".intercalate (Level.codesAt [root] p),
          (Address.above p).countP (Level.CodedAt [root] ·)⟩) ∧
    (∀ p : Address, (Address.above p).Nodup ∧ ∀ q, q ∈ Address.above p ↔ q <+: p ∧ q ≠ p) ∧
    (∀ c ∈ (deploymentCodes root).head?, c.frame = 0) ∧
    (deploymentCodes root).IsChain (fun c d => d.frame ≤ c.frame + 1) ∧
    (∀ c ∈ deploymentCodes root, ∀ n ≤ c.frame, ∃ d ∈ deploymentCodes root, d.frame = n) ∧
    (∀ root', ReflTransGen (Inside Wrapping) [root] [root'] →
      deploymentCodes root' = deploymentCodes root) := by
  have hgapless : Gapless 0 (deploymentCodes root) := gapless_levelEntries [root] 0
  refine ⟨?_, fun p => ⟨nodup_above p, mem_above_iff p⟩, hgapless.first, hgapless.rises,
    fun c hc n hn => ?_, fun root' h => sameEntries_of_changes Wrapping.sameEntries h 0⟩
  · rw [deploymentCodes, levelEntries_eq, Level.entriesAt]
    simp only [Nat.zero_add, Level.depthAt]
  · refine exists_frame_eq hgapless.rises (fun d hd => ?_) hc hn
    rw [hgapless.first d hd]
    exact n.zero_le

/-- The region that lacks a zone, with the zone one line further down. -/
def wrappedRegion : DeploymentLine :=
  .line "" "small" [some (.line "" "rack" [some (.line "Zone" "" [])])]

theorem outage_frames :
    ReflTransGen (Inside Wrapping) [outage [some (busyRegion "west"), none, some smallRegion]]
      [some (.line "" "portal" [outage [some (busyRegion "west"), none, some wrappedRegion]])] ∧
    (deploymentCodes (outage [some (busyRegion "west"), none, some smallRegion])).map
      DeploymentCode.frame = [0, 1, 2, 1] ∧
    deploymentCodes
        (some (.line "" "portal" [outage [some (busyRegion "west"), none, some wrappedRegion]])) =
      deploymentCodes (outage [some (busyRegion "west"), none, some smallRegion]) := by
  have hrack : Inside Wrapping [outage [some (busyRegion "west"), none, some smallRegion]]
      [outage [some (busyRegion "west"), none, some wrappedRegion]] :=
    @Inside.deeper Wrapping [] [] _ _ "Failed" ""
      (@Inside.deeper Wrapping [some (busyRegion "west"), none] [] _ _ "" "small"
        (.here ⟨"rack", rfl⟩))
  have hportal : Inside Wrapping [outage [some (busyRegion "west"), none, some wrappedRegion]]
      [some (.line "" "portal" [outage [some (busyRegion "west"), none, some wrappedRegion]])] :=
    .here ⟨"portal", rfl⟩
  have hchanges := (ReflTransGen.single hrack).tail hportal
  obtain ⟨-, -, -, -, -, hwrapping⟩ :=
    deploymentCodes_frames (outage [some (busyRegion "west"), none, some smallRegion])
  exact ⟨hchanges, by cbv, hwrapping _ hchanges⟩

end CommandTelemetry.Failure
