import CommandTelemetry.Proofs.BlankEnds
import CommandTelemetry.Setting.Environment

/-!
# Lists in variables

A variable lists items between separators. Its text is stripped, then cut at the separators, then
every piece is stripped, and those of which nothing is left are dropped. Blanks may so be stripped
twice at the two ends of the text, and a piece that is blank may vanish into either of them.

Neither matters if the separator is not blank: the items are those of the pieces of the whole text.
So items that are joined by separators are read back, whatever blanks stand around them and however
many blank pieces between them. What is read from any other text, at any separator, are items of the
same kind: not empty, stripped, and without the separator. Only a variable without a value leaves
the choice to the default. Pieces that are all blank make an empty list, which is a value.
-/

namespace CommandTelemetry.Environment

open Text

/-- A text that can stand between two separators and be read as it is: it is not empty, and has no
blank at either end and no separator in it. -/
structure IsItem (separator item : String) : Prop where
  nonempty : item ≠ ""
  stripped : Stripped item.toList
  unseparated : ¬separator.toList <:+: item.toList

/-- The pieces have the items in them, in this order. Around an item there are only blanks, and so
in all other pieces. -/
inductive Holds : List String → List String → Prop
  | nil : Holds [] []
  | item {before item after : String} {pieces items : List String}
      (hbefore : AllBlank before.toList) (hafter : AllBlank after.toList)
      (rest : Holds pieces items) : Holds ((before ++ item ++ after) :: pieces) (item :: items)
  | blank {w : String} {pieces items : List String} (hw : AllBlank w.toList)
      (rest : Holds pieces items) : Holds (w :: pieces) items

/-- The variable is unset or blank. -/
def IsUnfilled (env : Environment) (name : String) : Prop :=
  ∀ raw, env.get? name = some raw → AllBlank raw.toList

variable {env : Environment} {name raw separator : String} {c : Char} {pieces listed : List String}

/-! ## Variables with and without a value -/

theorem strip_eq_empty_iff : strip raw = "" ↔ AllBlank raw.toList := by
  rw [strip, String.ofList_eq_empty_iff, stripChars_eq_nil_iff]

theorem text?_eq_none_iff : env.text? name = none ↔ env.IsUnfilled name := by
  cases hraw : env.get? name with
  | none =>
      refine iff_of_true (by rw [text?, hraw]) fun raw hset => ?_
      rw [hraw] at hset
      cases hset
  | some raw =>
      have hunfilled : env.IsUnfilled name ↔ AllBlank raw.toList := by
        simp only [IsUnfilled, hraw, Option.some.injEq, forall_eq']
      rw [hunfilled, ← strip_eq_empty_iff, text?, hraw]
      simp only [ite_eq_left_iff, reduceCtorEq, imp_false, not_not]

theorem text?_of_filled (hraw : env.get? name = some raw) (hfilled : ¬AllBlank raw.toList) :
    env.text? name = some (strip raw) := by
  rw [text?, hraw]
  exact if_neg fun hempty => hfilled (strip_eq_empty_iff.1 hempty)

theorem list?_eq_none_iff : env.list? name separator = .ok none ↔ env.IsUnfilled name := by
  rw [← text?_eq_none_iff, list?]
  cases env.text? name with
  | none => exact iff_of_true rfl rfl
  | some value =>
      refine iff_of_false ?_ (Option.some_ne_none value)
      by_cases hseparator : separator = ""
      · simp only [if_pos hseparator, reduceCtorEq, not_false_iff]
      · simp only [if_neg hseparator, Except.ok.injEq, reduceCtorEq, not_false_iff]

theorem list?_of_filled (hseparator : separator ≠ "") (hraw : env.get? name = some raw)
    (hfilled : ¬AllBlank raw.toList) :
    env.list? name separator =
      .ok (some ((items separator.toList (stripChars raw.toList)).map String.ofList)) := by
  rw [list?, text?_of_filled hraw hfilled]
  simp only [if_neg hseparator, strip, String.toList_ofList]

theorem list_of_list? {found : Option (List String)} (h : env.list? name separator = .ok found)
    (default : Option (List String)) :
    env.list name default separator = .ok (found.getD (default.getD [])) := by
  rw [list, h]
  rfl

/-- No list of items is the same as every default. -/
theorem list_eq_default_iff :
    (∀ default, env.list name default separator = .ok (default.getD [])) ↔
      env.IsUnfilled name := by
  rw [← list?_eq_none_iff]
  refine ⟨fun hdefault => ?_, fun hnone => list_of_list? hnone⟩
  cases hfound : env.list? name separator with
  | error f =>
      have hlist := hdefault none
      rw [list, hfound] at hlist
      cases hlist
  | ok found =>
      cases found with
      | none => rfl
      | some found =>
          have hmissing := (list_of_list? hfound none).symm.trans (hdefault none)
          have hgiven := (list_of_list? hfound (some [""])).symm.trans (hdefault (some [""]))
          cases hmissing
          cases hgiven

/-! ## Items that are read -/

theorem isItem_of_mem_items (hseparator : separator ≠ "") {item s : List Char}
    (h : item ∈ items separator.toList s) : IsItem separator (String.ofList item) := by
  obtain ⟨hstripped, hne⟩ := List.mem_filter.1 h
  obtain ⟨piece, hpiece, rfl⟩ := List.mem_map.1 hstripped
  have hchars : separator.toList ≠ [] := fun hnil => hseparator (String.toList_eq_nil_iff.1 hnil)
  refine ⟨fun hempty => ?_, ?_, fun hinside => ?_⟩
  · exact of_decide_eq_true hne (String.ofList_eq_empty_iff.1 hempty)
  · rw [String.toList_ofList]
    exact stripped_stripChars piece
  · rw [String.toList_ofList] at hinside
    exact not_infix_of_mem_splitOn hchars hpiece (hinside.trans (infix_stripChars piece))

/-! ## Items that are joined -/

/-- It makes no difference that the whole text is stripped before it is cut. -/
theorem items_stripChars (hc : isBlank c = false) (s : List Char) :
    items [c] (stripChars s) = ((s.splitOn c).map stripChars).filter (· ≠ []) := by
  rw [items, splitOn_singleton, map_stripChars_splitOn_stripChars hc]

theorem Holds.notMem (hc : isBlank c = false)
    (hlisted : ∀ item ∈ listed, IsItem (String.singleton c) item) (h : Holds pieces listed) :
    ∀ piece ∈ pieces.map String.toList, c ∉ piece := by
  induction h with
  | nil => exact fun _ hpiece => absurd hpiece List.not_mem_nil
  | item hbefore hafter _ ih =>
      obtain ⟨hitem, hlisted⟩ := List.forall_mem_cons.1 hlisted
      have hunseparated := hitem.unseparated
      rw [String.toList_singleton, List.singleton_infix_iff] at hunseparated
      refine List.forall_mem_cons.2 ⟨?_, ih hlisted⟩
      rw [String.toList_append, String.toList_append, List.mem_append, List.mem_append]
      rintro ((hmem | hmem) | hmem)
      · exact hbefore.notMem hc hmem
      · exact hunseparated hmem
      · exact hafter.notMem hc hmem
  | blank hw _ ih => exact List.forall_mem_cons.2 ⟨hw.notMem hc, ih hlisted⟩

/-- What is left of the pieces once they are stripped and the blank ones are dropped. -/
theorem Holds.filter_stripped (hlisted : ∀ item ∈ listed, IsItem (String.singleton c) item)
    (h : Holds pieces listed) :
    ((pieces.map String.toList).map stripChars).filter (· ≠ []) = listed.map String.toList := by
  induction h with
  | nil => rfl
  | @item before item after _ _ hbefore hafter _ ih =>
      obtain ⟨hitem, hlisted⟩ := List.forall_mem_cons.1 hlisted
      have hstrip : stripChars (before ++ item ++ after).toList = item.toList := by
        rw [String.toList_append, String.toList_append, stripChars_append_right hafter,
          stripChars_append_left hbefore, hitem.stripped.stripChars_eq]
      have hne : item.toList ≠ [] := fun hnil => hitem.nonempty (String.toList_eq_nil_iff.1 hnil)
      rw [List.map_cons, List.map_cons, hstrip, List.filter_cons_of_pos (by simpa using hne),
        ih hlisted, List.map_cons]
  | @blank w _ _ hw _ ih =>
      have hstrip : stripChars w.toList = [] := stripChars_eq_nil_iff.2 hw
      rw [List.map_cons, List.map_cons, hstrip, List.filter_cons_of_neg (by simp), ih hlisted]

/-- The items of a text in which they were joined. -/
theorem items_joined (hc : isBlank c = false) (hne : listed ≠ [])
    (hlisted : ∀ item ∈ listed, IsItem (String.singleton c) item) (h : Holds pieces listed) :
    items [c] (stripChars ((String.singleton c).intercalate pieces).toList) =
      listed.map String.toList := by
  have hpieces : pieces.map String.toList ≠ [] := by
    intro hnil
    rw [List.map_eq_nil_iff] at hnil
    subst hnil
    cases h
    exact hne rfl
  rw [items_stripChars hc, String.toList_intercalate, String.toList_singleton,
    List.splitOn_intercalate c (h.notMem hc hlisted) hpieces, h.filter_stripped hlisted]

theorem list?_joined (hc : isBlank c = false) (hne : listed ≠ [])
    (hlisted : ∀ item ∈ listed, IsItem (String.singleton c) item) (h : Holds pieces listed)
    (hraw : env.get? name = some ((String.singleton c).intercalate pieces)) :
    env.list? name (String.singleton c) = .ok (some listed) := by
  have hitems := items_joined hc hne hlisted h
  have hfilled : ¬AllBlank ((String.singleton c).intercalate pieces).toList := by
    intro hblank
    -- A blank text would have no items.
    rw [stripChars_eq_nil_iff.2 hblank, items, splitOn_singleton, List.splitOn_nil] at hitems
    exact hne (List.map_eq_nil_iff.1 hitems.symm)
  have hseparator : String.singleton c ≠ "" := fun hempty => by
    have hnil := congrArg String.toList hempty
    rw [String.toList_singleton] at hnil
    cases hnil
  rw [list?_of_filled hseparator hraw hfilled, String.toList_singleton, hitems,
    map_ofList_toList]

/-- Items that are joined, with blanks around them and blank pieces between them, are read back.
Whatever else a variable has as its value, what is read from it are items, too, and the default
counts for nothing. It counts exactly if the variable has no value. -/
theorem list_undoes_joining (env : Environment) (name : String) :
    (∀ (c : Char) (pieces listed : List String), isBlank c = false → listed ≠ [] →
        (∀ item ∈ listed, IsItem (String.singleton c) item) → Holds pieces listed →
        env.get? name = some ((String.singleton c).intercalate pieces) →
          ∀ default, env.list name default (String.singleton c) = .ok listed) ∧
      (∀ separator, separator ≠ "" → ¬env.IsUnfilled name →
        ∃ found, (∀ default, env.list name default separator = .ok found) ∧
          ∀ item ∈ found, IsItem separator item) ∧
      ∀ separator, (∀ default, env.list name default separator = .ok (default.getD [])) ↔
        env.IsUnfilled name := by
  refine ⟨fun c pieces listed hc hne hlisted h hraw => ?_, fun separator hseparator hfilled => ?_,
    fun separator => list_eq_default_iff⟩
  · exact list_of_list? (list?_joined hc hne hlisted h hraw)
  · simp only [IsUnfilled, not_forall] at hfilled
    obtain ⟨raw, hraw, hfilled⟩ := hfilled
    refine ⟨_, list_of_list? (list?_of_filled hseparator hraw hfilled), ?_⟩
    exact List.forall_mem_map.2 fun item => isItem_of_mem_items hseparator

/-- Directories of tools, one of them with a space in its name, and a variable of blanks. -/
def searchPath : Environment :=
  [("TOOL_PATH", " /usr/bin ;; \t;/opt/my tools\n; "), ("EXTRA_PATH", " \t")]

theorem searchPath_read :
    (∀ item ∈ ["/usr/bin", "/opt/my tools"], IsItem ";" item) ∧
      Holds [" " ++ "/usr/bin" ++ " ", "", " \t", "" ++ "/opt/my tools" ++ "\n", " "]
        ["/usr/bin", "/opt/my tools"] ∧
      searchPath.list "TOOL_PATH" (some ["."]) ";" = .ok ["/usr/bin", "/opt/my tools"] ∧
      ¬searchPath.IsUnfilled "TOOL_PATH" ∧
      (∃ found, (∀ default, searchPath.list "TOOL_PATH" default ";;" = .ok found) ∧
        ∀ item ∈ found, IsItem ";;" item) ∧
      searchPath.IsUnfilled "EXTRA_PATH" ∧
      searchPath.list "EXTRA_PATH" (some ["."]) ";" = .ok ["."] := by
  have hlisted : ∀ item ∈ ["/usr/bin", "/opt/my tools"], IsItem ";" item :=
    List.forall_mem_cons.2 ⟨⟨by decide, by decide, by decide⟩,
      List.forall_mem_singleton.2 ⟨by decide, by decide, by decide⟩⟩
  have hholds : Holds [" " ++ "/usr/bin" ++ " ", "", " \t", "" ++ "/opt/my tools" ++ "\n", " "]
      ["/usr/bin", "/opt/my tools"] :=
    .item (by decide) (by decide) <| .blank (by decide) <| .blank (by decide) <|
      .item (by decide) (by decide) <| .blank (by decide) .nil
  have hfilled : ¬searchPath.IsUnfilled "TOOL_PATH" := fun h => absurd (h _ rfl) (by decide)
  have hunfilled : searchPath.IsUnfilled "EXTRA_PATH" := by
    intro raw hraw
    cases hraw
    decide
  obtain ⟨hjoined, hread, -⟩ := list_undoes_joining searchPath "TOOL_PATH"
  obtain ⟨-, -, hdefault⟩ := list_undoes_joining searchPath "EXTRA_PATH"
  exact ⟨hlisted, hholds, hjoined ';' _ _ (by decide) (by decide) hlisted hholds rfl _, hfilled,
    hread ";;" (by decide) hfilled, hunfilled, (hdefault ";").2 hunfilled (some ["."])⟩

end CommandTelemetry.Environment
