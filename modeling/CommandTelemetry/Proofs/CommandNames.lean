import CommandTelemetry.CommandLine.Invocation
import CommandTelemetry.Proofs.BlankEnds

/-!
# Span names tell commands apart

The path of a command is the names from the program's down, joined by spaces, and its span name is
made by cutting the path at its blanks again, leaving out the program's name at the front, and
joining the rest by periods. If no name is empty, blank in part or cut by a period, every step can
be undone: the words of the path are the names, and the pieces of the span name are `cmd` and the
names behind the program's. In particular only one name is left out, so that a command below a group
that is called like the program keeps its own span name.

How a path is spaced does not matter. The one law behind this is that a blank ends the word before
it and starts no other: `wordChars_append_cons`.
-/

namespace CommandTelemetry

namespace Text

variable {b : Char} {p q w w' : List Char}

theorem wordChars_of_dropWhile {s r : List Char} {c : Char}
    (h : s.dropWhile isBlank = c :: r) :
    wordChars s = (c :: r.takeWhile (!isBlank ·)) :: wordChars (r.dropWhile (!isBlank ·)) := by
  rw [wordChars]
  split
  · next hnil => rw [hnil] at h; cases h
  · next hcons =>
      rw [hcons] at h
      cases h
      rfl

theorem wordChars_of_dropWhile_nil {s : List Char} (h : s.dropWhile isBlank = []) :
    wordChars s = [] := by
  rw [wordChars]
  split
  · rfl
  · next hcons => rw [hcons] at h; cases h

@[simp] theorem wordChars_nil : wordChars [] = [] := wordChars_of_dropWhile_nil rfl

/-- A blank at the front makes no word. -/
theorem wordChars_cons_blank (hb : isBlank b = true) : wordChars (b :: q) = wordChars q := by
  have hdrop : (b :: q).dropWhile isBlank = q.dropWhile isBlank := List.dropWhile_cons_of_pos hb
  cases h : q.dropWhile isBlank with
  | nil => rw [wordChars_of_dropWhile_nil h, wordChars_of_dropWhile_nil (hdrop.trans h)]
  | cons c r => rw [wordChars_of_dropWhile h, wordChars_of_dropWhile (hdrop.trans h)]

theorem wordChars_blanks_append (hw : AllBlank w) : wordChars (w ++ q) = wordChars q := by
  induction w with
  | nil => rfl
  | cons b w ih =>
      obtain ⟨hb, hw⟩ := List.forall_mem_cons.1 hw
      rw [List.cons_append, wordChars_cons_blank hb, ih hw]

/-- A blank stands between the words before it and those after it. -/
theorem wordChars_append_cons (hb : isBlank b = true) :
    wordChars (p ++ b :: q) = wordChars p ++ wordChars q := by
  fun_induction wordChars p with
  | case1 p hp =>
      rw [wordChars_blanks_append (List.dropWhile_eq_nil_iff.1 hp), wordChars_cons_blank hb,
        List.nil_append]
  | case2 p c r hp ih =>
      have hdrop : (p ++ b :: q).dropWhile isBlank = c :: (r ++ b :: q) := by
        rw [List.dropWhile_append, hp]
        rfl
      have hstop : (b :: q).takeWhile (!isBlank ·) = [] ∧
          (b :: q).dropWhile (!isBlank ·) = b :: q := by simp [hb]
      -- The word that `r` ends in goes no further than to the blank.
      have htake : (r ++ b :: q).takeWhile (!isBlank ·) = r.takeWhile (!isBlank ·) := by
        rw [List.takeWhile_append, hstop.1, List.append_nil, ite_eq_right_iff]
        intro hlength
        exact ((List.takeWhile_prefix _).eq_of_length hlength).symm
      have hrest : (r ++ b :: q).dropWhile (!isBlank ·) = r.dropWhile (!isBlank ·) ++ b :: q := by
        rw [List.dropWhile_append, hstop.2, ite_eq_right_iff]
        intro hempty
        rw [List.isEmpty_iff.1 hempty, List.nil_append]
      rw [wordChars_of_dropWhile hdrop, htake, hrest, ih, List.cons_append]

theorem wordChars_append_blanks (hw : AllBlank w) (hne : w ≠ []) :
    wordChars (p ++ w ++ q) = wordChars p ++ wordChars q := by
  obtain ⟨b, rest, rfl⟩ := List.exists_cons_of_ne_nil hne
  obtain ⟨hb, hrest⟩ := List.forall_mem_cons.1 hw
  rw [List.append_assoc, List.cons_append, wordChars_append_cons hb, wordChars_blanks_append hrest]

theorem wordChars_append_allBlank (hw : AllBlank w) : wordChars (p ++ w) = wordChars p := by
  cases w with
  | nil => rw [List.append_nil]
  | cons b rest =>
      have hend := wordChars_append_blanks (p := p) (q := []) hw (List.cons_ne_nil _ _)
      rwa [List.append_nil, wordChars_nil, List.append_nil] at hend

/-- A text that is not empty and has no blank in it is a single word. -/
theorem wordChars_of_no_blank (hne : p ≠ []) (h : ∀ c ∈ p, isBlank c = false) :
    wordChars p = [p] := by
  obtain ⟨c, rest, rfl⟩ := List.exists_cons_of_ne_nil hne
  obtain ⟨hc, hrest⟩ := List.forall_mem_cons.1 h
  have hrest : ∀ d ∈ rest, (!isBlank d) = true := fun d hd => by rw [hrest d hd]; rfl
  have hdrop : (c :: rest).dropWhile isBlank = c :: rest :=
    List.dropWhile_cons_of_neg (by rw [hc]; exact Bool.false_ne_true)
  rw [wordChars_of_dropWhile hdrop, List.takeWhile_eq_self_iff.2 hrest,
    List.dropWhile_eq_nil_iff.2 hrest, wordChars_nil]

/-- The words that were joined by spaces. -/
theorem wordChars_intercalate {names : List (List Char)}
    (h : ∀ n ∈ names, n ≠ [] ∧ ∀ c ∈ n, isBlank c = false) :
    wordChars ([' '].intercalate names) = names := by
  induction names with
  | nil => exact wordChars_nil
  | cons n rest ih =>
      obtain ⟨⟨hne, hn⟩, hrest⟩ := List.forall_mem_cons.1 h
      cases rest with
      | nil => rw [List.intercalate_singleton, wordChars_of_no_blank hne hn]
      | cons m rest =>
          have hspace : AllBlank [' '] := by decide
          rw [List.intercalate_cons_cons, wordChars_append_blanks hspace (List.cons_ne_nil _ _),
            wordChars_of_no_blank hne hn, ih hrest, List.singleton_append]

end Text

namespace CommandLine

open Label Text

/-- A name that commands are registered under: it is not empty, and neither a blank nor a period is
in it. -/
structure IsName (name : String) : Prop where
  nonempty : name ≠ ""
  unspaced : ∀ c ∈ name.toList, isBlank c = false
  undotted : '.' ∉ name.toList

theorem isName_iff {name : String} :
    IsName name ↔
      name ≠ "" ∧ (∀ c ∈ name.toList, isBlank c = false) ∧ '.' ∉ name.toList :=
  ⟨fun h => ⟨h.nonempty, h.unspaced, h.undotted⟩, fun ⟨hne, hspace, hdot⟩ => ⟨hne, hspace, hdot⟩⟩

instance (name : String) : Decidable (IsName name) :=
  -- the search through the name, and not the one through all characters
  have : Decidable (∀ c ∈ name.toList, isBlank c = false) :=
    List.decidableBAll (isBlank · = false) name.toList
  decidable_of_iff _ isName_iff.symm

/-- A stretch of white space. -/
structure IsSpacing (w : String) : Prop where
  blank : AllBlank w.toList
  nonempty : w ≠ ""

theorem words_intercalate {names : List String} (h : ∀ n ∈ names, IsName n) :
    words (" ".intercalate names) = names := by
  have hchars : ∀ n ∈ names.map String.toList, n ≠ [] ∧ ∀ c ∈ n, isBlank c = false := by
    refine List.forall_mem_map.2 fun n hn => ⟨fun hnil => (h n hn).nonempty ?_, (h n hn).unspaced⟩
    exact String.toList_eq_nil_iff.1 hnil
  rw [words, String.toList_intercalate]
  exact (congrArg _ (wordChars_intercalate hchars)).trans (map_ofList_toList names)

/-- The words of a command's path are the names that it was joined from. -/
theorem spanName_options {α : Type} {i : Invocation α} (h : ∀ n ∈ i.path, IsName n) :
    spanName i.options.path = ".".intercalate ("cmd" :: i.path) := by
  have hroot : IsName programName := by decide
  have hwords : words i.options.path = programName :: i.path :=
    words_intercalate (List.forall_mem_cons.2 ⟨hroot, h⟩)
  rw [spanName, commandWords, hwords]
  simp only [if_pos]

theorem splitOn_spanName {α : Type} {i : Invocation α} (h : ∀ n ∈ i.path, IsName n) :
    ((spanName i.options.path).toList.splitOn '.').map String.ofList = "cmd" :: i.path := by
  have hpieces : ∀ n ∈ ("cmd" :: i.path).map String.toList, '.' ∉ n :=
    List.forall_mem_map.2 (List.forall_mem_cons.2 ⟨by decide, fun n hn => (h n hn).undotted⟩)
  have hne : ("cmd" :: i.path).map String.toList ≠ [] := by simp
  have hsplit : (['.'].intercalate (("cmd" :: i.path).map String.toList)).splitOn '.' =
      ("cmd" :: i.path).map String.toList := List.splitOn_intercalate '.' hpieces hne
  rw [spanName_options h, String.toList_intercalate]
  exact (congrArg _ hsplit).trans (map_ofList_toList _)

theorem words_respaced {p q w w' : String} (hw : IsSpacing w) (hw' : IsSpacing w') :
    words (p ++ w ++ q) = words (p ++ w' ++ q) := by
  have hne : w.toList ≠ [] := fun h => hw.nonempty (String.toList_eq_nil_iff.1 h)
  have hne' : w'.toList ≠ [] := fun h => hw'.nonempty (String.toList_eq_nil_iff.1 h)
  simp only [words, String.toList_append]
  rw [wordChars_append_blanks hw.blank hne, wordChars_append_blanks hw'.blank hne']

theorem words_padded {p w w' : String} (hw : AllBlank w.toList) (hw' : AllBlank w'.toList) :
    words (w ++ p ++ w') = words p := by
  simp only [words, String.toList_append, List.append_assoc]
  rw [wordChars_blanks_append hw, wordChars_append_allBlank hw']

/-- The span name of a command tells which command it is, since the names can be read off it again,
and it does not depend on how the path is spaced. -/
theorem spanName_identifies_command {α β : Type} {i : Invocation α} {j : Invocation β}
    (hi : ∀ n ∈ i.path, IsName n) (hj : ∀ n ∈ j.path, IsName n) :
    (spanName i.options.path = spanName j.options.path ↔ i.path = j.path) ∧
      ((spanName i.options.path).toList.splitOn '.').map String.ofList = "cmd" :: i.path ∧
      (∀ p q w w' root : String, IsSpacing w → IsSpacing w' →
        spanName (p ++ w ++ q) root = spanName (p ++ w' ++ q) root) ∧
      ∀ p w w' root : String, AllBlank w.toList → AllBlank w'.toList →
        spanName (w ++ p ++ w') root = spanName p root := by
  refine ⟨⟨fun hname => ?_, fun hpath => ?_⟩, splitOn_spanName hi, ?_, ?_⟩
  · have hpieces := splitOn_spanName hi
    rw [hname, splitOn_spanName hj] at hpieces
    exact (List.cons.inj hpieces).2.symm
  · rw [spanName_options hi, spanName_options hj, hpath]
  · intro p q w w' root hw hw'
    rw [spanName, spanName, commandWords, commandWords, words_respaced hw hw']
  · intro p w w' root hw hw'
    rw [spanName, spanName, commandWords, commandWords, words_padded hw hw']

/-- A command of a group that is called like the program, and one that is not in a group. -/
def inNamesake : Invocation Unit where
  path := ["cmdtrace", "show"]
  target := .help

def alone : Invocation Unit where
  path := ["show"]
  target := .help

theorem inNamesake_identified :
    spanName inNamesake.options.path ≠ spanName alone.options.path ∧
      ((spanName inNamesake.options.path).toList.splitOn '.').map String.ofList =
        ["cmd", "cmdtrace", "show"] ∧
      spanName ("cmdtrace" ++ "\t \n" ++ "show") = spanName ("cmdtrace" ++ " " ++ "show") ∧
      spanName ("\r\n" ++ "cmdtrace show" ++ "") = spanName "cmdtrace show" := by
  obtain ⟨hiff, hpieces, hrespaced, hpadded⟩ :=
    spanName_identifies_command (i := inNamesake) (j := alone) (by decide) (by decide)
  have htabbed : IsSpacing "\t \n" := ⟨by decide, by decide⟩
  have hspace : IsSpacing " " := ⟨by decide, by decide⟩
  exact ⟨fun hname => absurd (hiff.1 hname) (by decide), hpieces,
    hrespaced _ _ _ _ _ htabbed hspace, hpadded _ _ _ _ (by decide) (by decide)⟩

end CommandLine

end CommandTelemetry
