import CommandTelemetry.Proofs.DeploymentCodesText

/-!
# The levels of a failed deployment

What becomes an entry is a level of siblings, not a line. To say which levels there are, each one
gets an address: the places of the lines that lead to it. A level comes before all levels below it
and the levels below one line come before those below the next, which is the lexicographic order of
addresses. So the entries of a tree can be told without the recursion that collects them: they are
those of the levels with a code, in the order of their addresses, and the frame of an entry counts
the proper prefixes of its address that lead to a level with a code.

The recursion runs through lines and levels in turn, and the nested type has no induction that fits.
`level_induction` is the one that is used throughout: what holds of a level if it holds of the
levels below its lines, holds of all levels.

Edits of a tree are changes of one of its levels. `Inside` carries a change to a level anywhere in
the tree, and a change that keeps the entries of a level whatever its frame keeps them from there.
-/

namespace CommandTelemetry.Failure

/-- The lines of a level. -/
abbrev Level := List (Option DeploymentLine)

theorem sizeOf_inner_lt {l : DeploymentLine} {lines : Level} (h : some l ∈ lines) :
    sizeOf l.inner < sizeOf lines := by
  have hl : sizeOf (some l) < sizeOf lines := List.sizeOf_lt_of_mem h
  rcases l with ⟨code, message, inner⟩
  simp only [Option.some.sizeOf_spec, DeploymentLine.line.sizeOf_spec] at hl
  rw [DeploymentLine.inner]
  omega

theorem level_induction {P : Level → Prop}
    (step : ∀ lines : Level, (∀ l : DeploymentLine, some l ∈ lines → P l.inner) → P lines)
    (lines : Level) : P lines :=
  step lines fun l hl =>
    have := sizeOf_inner_lt hl
    level_induction step l.inner
termination_by sizeOf lines

/-! ## The codes of a level -/

/-- The codes on a level from left to right, without the empty ones. -/
def Level.codes (lines : Level) : List String :=
  (lines.reduceOption.map DeploymentLine.code).filter (· ≠ "")

theorem codes_append (before after : Level) :
    Level.codes (before ++ after) = before.codes ++ after.codes := by
  rw [Level.codes, List.reduceOption_append, List.map_append, List.filter_append]
  rfl

theorem codes_cons (l : DeploymentLine) (rest : Level) :
    Level.codes (some l :: rest) = [l.code].filter (· ≠ "") ++ rest.codes := by
  rw [Level.codes, List.reduceOption_cons_of_some, List.map_cons, Level.codes,
    ← List.filter_append, List.singleton_append]

theorem levelCodes_eq (lines : Level) : levelCodes lines = lines.codes := by
  induction lines with
  | nil => rfl
  | cons l rest ih =>
      rcases l with _ | l
      · exact ih
      · rw [codes_cons, ← ih, levelCodes, List.filterMap_cons]
        by_cases hcode : l.code = "" <;> simp [hcode, levelCodes]

/-- Whether a line of a level has a code. -/
def Level.Coded (lines : Level) : Prop := lines.codes ≠ []

instance (lines : Level) : Decidable lines.Coded := inferInstanceAs (Decidable (_ ≠ _))

/-! ## Addresses -/

/-- The lines that lead to a level, each by its place on its own level. -/
abbrev Address := List Nat

/-- The level at an address, if there is one. -/
def Level.at? (lines : Level) : Address → Option Level
  | [] => some lines
  | i :: p => lines[i]?.join.bind fun l => Level.at? l.inner p

mutual

/-- The addresses of a level and of the levels below it. -/
def addresses (lines : Level) : List Address := [] :: addressesBelow 0 lines

/-- The addresses of the levels below lines, which start at this place. -/
def addressesBelow (i : Nat) : Level → List Address
  | [] => []
  | none :: rest => addressesBelow (i + 1) rest
  | some (.line _ _ inner) :: rest =>
      (addresses inner).map (i :: ·) ++ addressesBelow (i + 1) rest

end

theorem flatMap_reduceOption {α : Type} (lines : Level) (f : DeploymentLine → List α) (i : Nat) :
    lines.reduceOption.flatMap f = (lines.zipIdx i).flatMap fun l => l.1.elim [] f := by
  induction lines generalizing i with
  | nil => rfl
  | cons l rest ih =>
      rw [List.zipIdx_cons, List.flatMap_cons]
      rcases l with _ | m
      · rw [List.reduceOption_cons_of_none, ih (i + 1), Option.elim_none, List.nil_append]
      · rw [List.reduceOption_cons_of_some, List.flatMap_cons, ih (i + 1), Option.elim_some]

/-- The addresses below a line in its place. -/
def addressesAt (l : Option DeploymentLine × Nat) : List Address :=
  l.1.elim [] fun m => (addresses m.inner).map (l.2 :: ·)

theorem addressesBelow_eq (i : Nat) (lines : Level) :
    addressesBelow i lines = (lines.zipIdx i).flatMap addressesAt := by
  induction lines generalizing i with
  | nil => rw [addressesBelow, List.zipIdx_nil, List.flatMap_nil]
  | cons l rest ih =>
      rw [List.zipIdx_cons, List.flatMap_cons, ← ih]
      rcases l with _ | ⟨code, message, inner⟩
      · rw [addressesBelow]
        rfl
      · rw [addressesBelow]
        rfl

theorem addresses_eq (lines : Level) :
    addresses lines = [] :: lines.zipIdx.flatMap addressesAt := by
  rw [addresses, addressesBelow_eq]

theorem mem_addressesAt {l : Option DeploymentLine × Nat} {p : Address} :
    p ∈ addressesAt l ↔ ∃ m ∈ l.1, ∃ q ∈ addresses m.inner, p = l.2 :: q := by
  rcases l with ⟨_ | m, i⟩
  · simp [addressesAt]
  · simp [addressesAt, eq_comm]

section

variable {lines : Level} {l : DeploymentLine} {i : Nat}

theorem at?_cons (h : lines[i]? = some (some l)) (p : Address) :
    lines.at? (i :: p) = Level.at? l.inner p := by
  rw [Level.at?, h]
  rfl

theorem exists_line_of_at? {p : Address} (h : (lines.at? (i :: p)).isSome) :
    ∃ l, lines[i]? = some (some l) := by
  obtain ⟨below, hbelow⟩ := Option.isSome_iff_exists.1 h
  obtain ⟨l, hl, -⟩ := Option.bind_eq_some_iff.1 hbelow
  exact ⟨l, Option.join_eq_some_iff.1 hl⟩

end

/-- Every level has its address listed, and only levels have. -/
theorem mem_addresses_iff (lines : Level) (p : Address) :
    p ∈ addresses lines ↔ (lines.at? p).isSome := by
  induction lines using level_induction generalizing p with
  | step lines ih =>
      rw [addresses_eq, List.mem_cons, List.mem_flatMap]
      cases p with
      | nil => exact iff_of_true (.inl rfl) rfl
      | cons i q =>
          constructor
          · rintro (h | ⟨l, hl, hmem⟩)
            · cases h
            · obtain ⟨m, hm, q', hq', h⟩ := mem_addressesAt.1 hmem
              obtain ⟨rfl, rfl⟩ := List.cons.inj h
              have hget : lines[l.2]? = some (some m) :=
                (List.mem_zipIdx_iff_getElem?.1 hl).trans (congrArg some hm)
              rw [at?_cons hget, ← ih m (List.mem_of_getElem? hget)]
              exact hq'
          · intro h
            obtain ⟨m, hget⟩ := exists_line_of_at? h
            rw [at?_cons hget, ← ih m (List.mem_of_getElem? hget)] at h
            exact .inr ⟨(some m, i), List.mem_zipIdx_iff_getElem?.2 hget,
              mem_addressesAt.2 ⟨m, rfl, q, h, rfl⟩⟩

/-- The addresses are listed in lexicographic order. -/
theorem addresses_sorted (lines : Level) : (addresses lines).Pairwise (· < ·) := by
  induction lines using level_induction with
  | step lines ih =>
      rw [addresses_eq, List.pairwise_cons, List.pairwise_flatMap]
      refine ⟨fun p hp => ?_, fun l hl => ?_, ?_⟩
      · obtain ⟨l, -, hmem⟩ := List.mem_flatMap.1 hp
        obtain ⟨m, -, q, -, rfl⟩ := mem_addressesAt.1 hmem
        exact List.nil_lt_cons _ _
      · rcases l with ⟨_ | m, i⟩
        · exact List.Pairwise.nil
        · have hm : some m ∈ lines := List.mem_of_getElem? (List.mem_zipIdx_iff_getElem?.1 hl)
          exact List.pairwise_map.2 ((ih m hm).imp fun h => List.cons_lt_cons_iff.2 (.inr ⟨rfl, h⟩))
      · -- lines further right lead to addresses that start with a larger place
        have hplaces : (lines.zipIdx.map Prod.snd).Pairwise (· < ·) := by
          rw [List.zipIdx_map_snd]
          exact List.pairwise_lt_range'
        refine (List.pairwise_map.1 hplaces).imp fun h p hp q hq => ?_
        obtain ⟨-, -, p', -, rfl⟩ := mem_addressesAt.1 hp
        obtain ⟨-, -, q', -, rfl⟩ := mem_addressesAt.1 hq
        exact List.cons_lt_cons_iff.2 (.inl h)

/-! ## The entries of levels -/

section

variable (lines : Level) (p : Address)

/-- The codes on the level at an address. -/
def Level.codesAt : List String := (lines.at? p).elim [] Level.codes

/-- Whether there is a level with a code at an address. -/
def Level.CodedAt : Prop := lines.codesAt p ≠ []

instance : Decidable (lines.CodedAt p) := inferInstanceAs (Decidable (_ ≠ _))

/-- The addresses of the levels above that at an address. -/
def Address.above : List Address := p.inits.dropLast

/-- How many of the levels above an address have a code. -/
def Level.depthAt : Nat := (Address.above p).countP (lines.CodedAt ·)

/-- The entries of the levels with a code among those at some addresses, in a tree whose top level
has this frame. -/
def Level.entriesAt (addresses : List Address) (frame : Nat) : List DeploymentCode :=
  (addresses.filter (lines.CodedAt ·)).map fun p =>
    ⟨",".intercalate (lines.codesAt p), frame + lines.depthAt p⟩

/-- The frame of the levels right below a level with this frame. -/
def Level.frameBelow (frame : Nat) : Nat := if lines.Coded then frame + 1 else frame

end

section

variable {lines : Level} {l : DeploymentLine} {i : Nat}

theorem codedAt_nil : lines.CodedAt [] ↔ lines.Coded := Iff.rfl

theorem codesAt_cons (h : lines[i]? = some (some l)) (p : Address) :
    lines.codesAt (i :: p) = Level.codesAt l.inner p := by
  rw [Level.codesAt, at?_cons h, Level.codesAt]

theorem codedAt_cons (h : lines[i]? = some (some l)) (p : Address) :
    lines.CodedAt (i :: p) ↔ Level.CodedAt l.inner p := by
  rw [Level.CodedAt, codesAt_cons h, Level.CodedAt]

theorem above_cons (i : Nat) (p : Address) :
    Address.above (i :: p) = [] :: (Address.above p).map (i :: ·) := by
  have hne : p.inits.map (i :: ·) ≠ [] := by
    rw [ne_eq, List.map_eq_nil_iff]
    exact List.ne_nil_of_mem ((List.mem_inits _ _).2 List.nil_prefix)
  rw [Address.above, List.inits_cons, List.dropLast_cons_of_ne_nil hne, Address.above,
    List.map_dropLast]

theorem codedAt_comp_cons (h : lines[i]? = some (some l)) :
    (fun p => decide (lines.CodedAt p)) ∘ (i :: ·) = fun p => decide (Level.CodedAt l.inner p) :=
  funext fun p => decide_eq_decide.2 (codedAt_cons h p)

/-- A level is as deep below the top as below the line that it is under, and once more if the top
has a code. -/
theorem depthAt_cons (h : lines[i]? = some (some l)) (p : Address) (frame : Nat) :
    frame + lines.depthAt (i :: p) = lines.frameBelow frame + Level.depthAt l.inner p := by
  have hdepth : lines.depthAt (i :: p) =
      Level.depthAt l.inner p + if decide (lines.CodedAt []) = true then 1 else 0 := by
    rw [Level.depthAt, above_cons, List.countP_cons, List.countP_map, codedAt_comp_cons h,
      Level.depthAt]
  rw [hdepth, Level.frameBelow]
  by_cases hcoded : lines.Coded
  · rw [if_pos (decide_eq_true (codedAt_nil.2 hcoded)), if_pos hcoded]
    omega
  · rw [if_neg (by rwa [decide_eq_true_eq, codedAt_nil]), if_neg hcoded]
    omega

theorem entriesAt_map_cons (h : lines[i]? = some (some l)) (addresses : List Address)
    (frame : Nat) :
    lines.entriesAt (addresses.map (i :: ·)) frame =
      Level.entriesAt l.inner addresses (lines.frameBelow frame) := by
  rw [Level.entriesAt, List.filter_map, List.map_map, codedAt_comp_cons h, Level.entriesAt]
  refine List.map_congr_left fun p _ => ?_
  rw [Function.comp, codesAt_cons h, depthAt_cons h]

theorem levelEntries_of_coded (h : lines.Coded) (frame : Nat) :
    levelEntries frame lines =
      ⟨",".intercalate lines.codes, frame⟩ :: innerEntries (frame + 1) lines := by
  rw [levelEntries, levelEntry, levelCodes_eq]
  cases hcodes : lines.codes with
  | nil => exact absurd hcodes h
  | cons code codes => rfl

theorem levelEntries_of_not_coded (h : ¬ lines.Coded) (frame : Nat) :
    levelEntries frame lines = innerEntries frame lines := by
  rw [levelEntries, levelEntry, levelCodes_eq, not_not.1 h]

theorem innerEntries_eq (frame : Nat) (lines : Level) :
    innerEntries frame lines = lines.reduceOption.flatMap fun m => levelEntries frame m.inner := by
  induction lines with
  | nil => rw [innerEntries, List.reduceOption_nil, List.flatMap_nil]
  | cons l rest ih =>
      rcases l with _ | ⟨code, message, inner⟩
      · rw [innerEntries, ih, List.reduceOption_cons_of_none]
      · rw [innerEntries, ih, List.reduceOption_cons_of_some, List.flatMap_cons,
          DeploymentLine.inner]

theorem innerEntries_append (frame : Nat) (before after : Level) :
    innerEntries frame (before ++ after) =
      innerEntries frame before ++ innerEntries frame after := by
  rw [innerEntries_eq, List.reduceOption_append, List.flatMap_append, ← innerEntries_eq,
    ← innerEntries_eq]

theorem innerEntries_cons (frame : Nat) (l : DeploymentLine) (rest : Level) :
    innerEntries frame (some l :: rest) =
      levelEntries frame l.inner ++ innerEntries frame rest := by
  rw [innerEntries_eq, List.reduceOption_cons_of_some, List.flatMap_cons, ← innerEntries_eq]

/-- What is collected below lines, if it is known of the levels right below. -/
theorem innerEntries_eq_entriesAt (frame : Nat)
    (ih : ∀ m : DeploymentLine, some m ∈ lines → ∀ frame,
      levelEntries frame m.inner = Level.entriesAt m.inner (addresses m.inner) frame) :
    innerEntries (lines.frameBelow frame) lines =
      lines.entriesAt (lines.zipIdx.flatMap addressesAt) frame := by
  rw [innerEntries_eq, flatMap_reduceOption _ _ 0, Level.entriesAt, List.filter_flatMap,
    List.map_flatMap]
  refine List.flatMap_congr fun l hl => ?_
  rcases l with ⟨_ | m, i⟩
  · rfl
  · have hget : lines[i]? = some (some m) := List.mem_zipIdx_iff_getElem?.1 hl
    exact (ih m (List.mem_of_getElem? hget) _).trans (entriesAt_map_cons hget _ frame).symm

/-- The entries of a level and of those below it are those of the levels with a code, in the order
of their addresses. -/
theorem levelEntries_eq (lines : Level) (frame : Nat) :
    levelEntries frame lines = lines.entriesAt (addresses lines) frame := by
  induction lines using level_induction generalizing frame with
  | step lines ih =>
      have hbelow := innerEntries_eq_entriesAt frame ih
      rw [addresses_eq]
      by_cases hcoded : lines.Coded
      · rw [Level.frameBelow, if_pos hcoded] at hbelow
        rw [levelEntries_of_coded hcoded, hbelow, Level.entriesAt, Level.entriesAt,
          List.filter_cons, if_pos (decide_eq_true (codedAt_nil.2 hcoded)), List.map_cons]
        rfl
      · rw [Level.frameBelow, if_neg hcoded] at hbelow
        rw [levelEntries_of_not_coded hcoded, hbelow, Level.entriesAt, Level.entriesAt,
          List.filter_cons, if_neg (by rwa [decide_eq_true_eq, codedAt_nil])]

end

/-! ## All codes of a tree -/

/-- The codes of a level and of all levels below it, in the order of addresses. -/
def treeCodes (lines : Level) : List String := (addresses lines).flatMap lines.codesAt

/-- First come all codes of a level, and then in turn those of the levels below each line. -/
theorem treeCodes_eq (lines : Level) :
    treeCodes lines = lines.codes ++ lines.reduceOption.flatMap fun m => treeCodes m.inner := by
  have htop : lines.codesAt [] = lines.codes := rfl
  rw [treeCodes, addresses_eq, List.flatMap_cons, htop, List.flatMap_assoc,
    flatMap_reduceOption _ _ 0]
  congr 1
  refine List.flatMap_congr fun l hl => ?_
  rcases l with ⟨_ | m, i⟩
  · rfl
  · have hget : lines[i]? = some (some m) := List.mem_zipIdx_iff_getElem?.1 hl
    show ((addresses m.inner).map (i :: ·)).flatMap lines.codesAt = treeCodes m.inner
    rw [List.flatMap_map, treeCodes]
    exact List.flatMap_congr fun p _ => codesAt_cons hget p

/-- Joining parts and then what was joined is joining all at once, if no part is empty. -/
theorem intercalate_flatten {separator : String} {parts : List (List String)}
    (h : ∀ part ∈ parts, part ≠ []) :
    separator.intercalate (parts.map separator.intercalate) =
      separator.intercalate parts.flatten := by
  induction parts with
  | nil => rfl
  | cons part rest ih =>
      obtain ⟨hpart, hrest⟩ := List.forall_mem_cons.1 h
      rw [List.map_cons, List.flatten_cons]
      cases rest with
      | nil => rw [List.map_nil, String.intercalate_singleton, List.flatten_nil, List.append_nil]
      | cons next rest =>
          have hflat : (next :: rest).flatten ≠ [] := by
            rw [List.flatten_cons]
            exact List.append_ne_nil_of_left_ne_nil (hrest next List.mem_cons_self) _
          rw [String.intercalate_cons_of_ne_nil (by simp), ih hrest,
            String.intercalate_append_of_ne_nil hpart hflat]

theorem intercalate_ne_empty {separator : String} {texts : List String} (hne : texts ≠ [])
    (h : ∀ text ∈ texts, text ≠ "") : separator.intercalate texts ≠ "" := by
  cases texts with
  | nil => exact absurd rfl hne
  | cons text rest =>
      have htext := h text List.mem_cons_self
      cases rest with
      | nil => rwa [String.intercalate_singleton]
      | cons next rest =>
          rw [String.intercalate_cons_cons, ne_eq, String.append_eq_empty_iff,
            String.append_eq_empty_iff]
          rintro ⟨⟨hempty, -⟩, -⟩
          exact htext hempty

section

variable {lines : Level}

theorem codes_ne_empty {code : String} (h : code ∈ lines.codes) : code ≠ "" := by
  simpa using (List.mem_filter.1 h).2

theorem codesAt_ne_empty {p : Address} {code : String} (h : code ∈ lines.codesAt p) :
    code ≠ "" := by
  unfold Level.codesAt at h
  cases hp : lines.at? p with
  | none => simp [hp] at h
  | some level =>
      rw [hp] at h
      exact codes_ne_empty h

theorem code_ne_empty_of_mem_entriesAt {addresses : List Address} {frame : Nat}
    {c : DeploymentCode} (h : c ∈ lines.entriesAt addresses frame) : c.code ≠ "" := by
  obtain ⟨p, hp, rfl⟩ := List.mem_map.1 h
  exact intercalate_ne_empty (of_decide_eq_true (List.mem_filter.1 hp).2)
    fun _ hcode => codesAt_ne_empty hcode

theorem map_code_entriesAt (addresses : List Address) (frame : Nat) :
    (lines.entriesAt addresses frame).map DeploymentCode.code =
      (addresses.filter (lines.CodedAt ·)).map fun p => ",".intercalate (lines.codesAt p) := by
  rw [Level.entriesAt, List.map_map]
  rfl

/-- The codes at some addresses are all on the levels with a code. -/
theorem flatten_codesAt (addresses : List Address) :
    ((addresses.filter (lines.CodedAt ·)).map lines.codesAt).flatten =
      addresses.flatMap lines.codesAt := by
  induction addresses with
  | nil => rfl
  | cons p rest ih =>
      rw [List.filter_cons, List.flatMap_cons, ← ih]
      by_cases hcoded : lines.CodedAt p
      · rw [if_pos (decide_eq_true hcoded), List.map_cons, List.flatten_cons]
      · rw [if_neg (by rwa [decide_eq_true_eq]), not_not.1 hcoded, List.nil_append]

theorem intercalate_entriesAt (addresses : List Address) (frame : Nat) :
    ",".intercalate ((lines.entriesAt addresses frame).map DeploymentCode.code) =
      ",".intercalate (addresses.flatMap lines.codesAt) := by
  have hparts : ∀ part ∈ (addresses.filter (lines.CodedAt ·)).map lines.codesAt, part ≠ [] := by
    intro part hpart
    obtain ⟨p, hp, rfl⟩ := List.mem_map.1 hpart
    exact of_decide_eq_true (List.mem_filter.1 hp).2
  have hjoin := @intercalate_flatten "," _ hparts
  rw [flatten_codesAt, List.map_map] at hjoin
  rw [map_code_entriesAt]
  exact hjoin

end

/-! ## Edits -/

open Relation

/-- A change of a level, made on a level itself or on a level anywhere below it. -/
inductive Inside (change : Level → Level → Prop) : Level → Level → Prop
  | here {lines lines' : Level} : change lines lines' → Inside change lines lines'
  | deeper {before after inner inner' : Level} {code message : String} :
      Inside change inner inner' →
      Inside change (before ++ some (.line code message inner) :: after)
        (before ++ some (.line code message inner') :: after)

/-- The two changes that concern no code: a place without a line is removed, or the message of a
line is another one. -/
inductive Wording : Level → Level → Prop
  | removal {before after : Level} : Wording (before ++ none :: after) (before ++ after)
  | message {before after inner : Level} {code message message' : String} :
      Wording (before ++ some (.line code message inner) :: after)
        (before ++ some (.line code message' inner) :: after)

/-- Two levels with the same entries, whatever their frame. -/
def SameEntries (lines lines' : Level) : Prop :=
  ∀ frame, levelEntries frame lines' = levelEntries frame lines

variable {lines lines' : Level}

theorem sameEntries_of (hcodes : lines'.codes = lines.codes)
    (hinner : ∀ frame, innerEntries frame lines' = innerEntries frame lines) :
    SameEntries lines lines' := by
  intro frame
  by_cases hcoded : lines.Coded
  · have hcoded' : lines'.Coded := by rwa [Level.Coded, hcodes]
    rw [levelEntries_of_coded hcoded, levelEntries_of_coded hcoded', hcodes, hinner]
  · have hcoded' : ¬ lines'.Coded := by rwa [Level.Coded, hcodes]
    rw [levelEntries_of_not_coded hcoded, levelEntries_of_not_coded hcoded', hinner]

/-- A line can take the place of another one with the same code and the same entries below. -/
theorem sameEntries_line {l l' : DeploymentLine} (before after : Level) (hcode : l'.code = l.code)
    (hinner : SameEntries l.inner l'.inner) :
    SameEntries (before ++ some l :: after) (before ++ some l' :: after) := by
  refine sameEntries_of ?_ fun frame => ?_
  · rw [codes_append, codes_append, codes_cons, codes_cons, hcode]
  · rw [innerEntries_append, innerEntries_append, innerEntries_cons, innerEntries_cons, hinner]

/-- A change that keeps the entries of a level keeps them from anywhere below it. -/
theorem Inside.sameEntries {change : Level → Level → Prop}
    (hchange : ∀ lines lines', change lines lines' → SameEntries lines lines')
    (h : Inside change lines lines') : SameEntries lines lines' := by
  induction h with
  | here h => exact hchange _ _ h
  | @deeper before after _ _ _ _ _ ih => exact sameEntries_line before after rfl ih

/-- And so does any number of such changes, one after the other. -/
theorem sameEntries_of_changes {change : Level → Level → Prop}
    (hchange : ∀ lines lines', change lines lines' → SameEntries lines lines')
    (h : ReflTransGen (Inside change) lines lines') : SameEntries lines lines' := by
  intro frame
  induction h with
  | refl => rfl
  | tail _ hlast ih => rw [hlast.sameEntries hchange frame, ih]

theorem Wording.sameEntries (lines lines' : Level) (h : Wording lines lines') :
    SameEntries lines lines' := by
  cases h with
  | @removal before after =>
      refine sameEntries_of ?_ fun frame => ?_
      · rw [codes_append, codes_append]
        rfl
      · rw [innerEntries_append, innerEntries_append, innerEntries]
  | @message before after inner code message message' =>
      exact sameEntries_line before after rfl fun _ => rfl

/-! ## Nothing is lost -/

/-- No code of a failed deployment is lost, repeated or moved. The addresses of the levels of a tree
are listed in lexicographic order, all of them and nothing else. The entries are those of the levels
with a code, one for each, and none of them is empty. Joined, they are the codes of the whole tree:
all codes of a level from left to right and then in turn those of the levels below each line. Where
nothing stands in place of a line, and what the messages are, does not matter. -/
theorem deploymentCodes_lossless (root : Option DeploymentLine) :
    (addresses [root]).Pairwise (· < ·) ∧
    (∀ p, p ∈ addresses [root] ↔ (Level.at? [root] p).isSome) ∧
    (deploymentCodes root).map DeploymentCode.code =
      ((addresses [root]).filter (Level.CodedAt [root] ·)).map
        (fun p => ",".intercalate (Level.codesAt [root] p)) ∧
    (∀ c ∈ deploymentCodes root, c.code ≠ "") ∧
    ",".intercalate ((deploymentCodes root).map DeploymentCode.code) =
      ",".intercalate (treeCodes [root]) ∧
    (∀ lines : Level, treeCodes lines =
      lines.codes ++ lines.reduceOption.flatMap fun l => treeCodes l.inner) ∧
    (∀ root', ReflTransGen (Inside Wording) [root] [root'] →
      deploymentCodes root' = deploymentCodes root) := by
  have hentries : deploymentCodes root = Level.entriesAt [root] (addresses [root]) 0 :=
    levelEntries_eq [root] 0
  refine ⟨addresses_sorted _, mem_addresses_iff _, ?_, fun c hc => ?_, ?_, treeCodes_eq,
    fun root' h => sameEntries_of_changes Wording.sameEntries h 0⟩
  · rw [hentries, map_code_entriesAt]
  · rw [hentries] at hc
    exact code_ne_empty_of_mem_entriesAt hc
  · rw [hentries, intercalate_entriesAt, treeCodes]

/-- A deployment that failed in some regions. -/
def outage (regions : Level) : Option DeploymentLine := some (.line "Failed" "" regions)

/-- A region with two conflicts, one of them about a quota. -/
def busyRegion (message : String) : DeploymentLine :=
  .line "" message
    [some (.line "Conflict" "" [some (.line "Quota" "" [])]), some (.line "Conflict" "" [])]

/-- A region that lacks a zone. -/
def smallRegion : DeploymentLine := .line "" "small" [some (.line "Zone" "" [])]

theorem outage_lossless :
    ReflTransGen (Inside Wording) [outage [some (busyRegion "west"), none, some smallRegion]]
      [outage [some (busyRegion "east"), some smallRegion]] ∧
    (deploymentCodes (outage [some (busyRegion "west"), none, some smallRegion])).map
      DeploymentCode.code = ["Failed", "Conflict,Conflict", "Quota", "Zone"] ∧
    deploymentCodes (outage [some (busyRegion "east"), some smallRegion]) =
      deploymentCodes (outage [some (busyRegion "west"), none, some smallRegion]) := by
  have hremoval : Inside Wording [outage [some (busyRegion "west"), none, some smallRegion]]
      [outage [some (busyRegion "west"), some smallRegion]] :=
    @Inside.deeper Wording [] [] _ _ "Failed" ""
      (.here (@Wording.removal [some (busyRegion "west")] [some smallRegion]))
  have hmessage : Inside Wording [outage [some (busyRegion "west"), some smallRegion]]
      [outage [some (busyRegion "east"), some smallRegion]] :=
    @Inside.deeper Wording [] [] _ _ "Failed" ""
      (.here (@Wording.message [] [some smallRegion] _ "" "west" "east"))
  have hchanges := (ReflTransGen.single hremoval).tail hmessage
  obtain ⟨-, -, -, -, -, -, hedits⟩ :=
    deploymentCodes_lossless (outage [some (busyRegion "west"), none, some smallRegion])
  exact ⟨hchanges, by cbv, hedits _ hchanges⟩

end CommandTelemetry.Failure
