import Mathlib.Data.List.DropRight
import CommandTelemetry.Label.Tool
import CommandTelemetry.Proofs.CaselessText
import CommandTelemetry.Proofs.Pieces

/-!
# What of a path reaches a label

The label of a tool is made of the last segment of its path, and says nothing of the directory in
front. What makes this less than obvious is the anchor, which is taken off a path before it is cut:
a drive, a share of a server, or a root, any of them behind the marker of an extended path. An
anchor ends at a separator or where the path ends, so it reaches the last segment in two cases only.
Either the last segment has a drive itself, which a segment without a colon has not, or it is the
share of a server. Then the anchor is all there is, and the label is empty.

So the last segment is followed through each step that takes something off the front, and the
directories that are servers are listed in `ServerRoot`. Extensions are cut off behind the segment,
and lower case brings in neither periods nor separators.
-/

namespace CommandTelemetry.Label

open Text

variable {path front rest segment : List Char}

/-! ## The last segment -/

/-- What follows the last separator. -/
def lastSegment (path : List Char) : List Char := path.rtakeWhile (· ≠ separator)

theorem lastSegment_append (front rest : List Char) :
    lastSegment (front ++ separator :: rest) = lastSegment rest := by
  rw [lastSegment, lastSegment, List.rtakeWhile, List.rtakeWhile, List.reverse_append,
    List.reverse_cons, List.append_assoc, List.takeWhile_append]
  split
  · next hall =>
      have hall := (List.takeWhile_prefix (· ≠ separator)).eq_of_length hall
      rw [hall]
      simp
  · rfl

theorem lastSegment_append_of_mem (h : separator ∈ rest) (front : List Char) :
    lastSegment (front ++ rest) = lastSegment rest := by
  obtain ⟨before, after, rfl⟩ := List.append_of_mem h
  rw [← List.append_assoc, lastSegment_append, lastSegment_append]

theorem lastSegment_of_notMem (h : separator ∉ path) : lastSegment path = path :=
  List.rtakeWhile_eq_self_iff.2 fun _ hc => decide_eq_true fun heq => h (heq ▸ hc)

/-- The last piece of a path that is cut at its separators. -/
theorem getLast?_splitOn (path : List Char) :
    (splitOn [separator] path).getLast? = some (lastSegment path) := by
  fun_induction splitOn [separator] path with
  | case1 path hcut =>
      have hnot : separator ∉ path := fun h =>
        (cutAt?_eq_none_iff (by simp)).1 hcut (List.singleton_infix_iff _ _ |>.2 h)
      rw [List.getLast?_singleton, lastSegment_of_notMem hnot]
  | case2 path piece rest hcut _ ih =>
      obtain ⟨rfl, -⟩ := of_cutAt?_eq_some (by simp) hcut
      rw [List.getLast?_cons, ih, List.append_assoc]
      simp [lastSegment_append]

/-! ## Anchors -/

theorem lastSegment_dropExtendedMarker (path : List Char) :
    lastSegment (dropExtendedMarker path) = lastSegment path := by
  unfold dropExtendedMarker
  split
  · next rest =>
      calc lastSegment ('\\' :: '\\' :: rest)
        _ = lastSegment rest := lastSegment_append ['\\'] rest
        _ = _ := (lastSegment_append ['\\', '\\', '?', '\\', 'U', 'N', 'C'] rest).symm
  · next rest _ => exact (lastSegment_append ['\\', '\\', '?'] rest).symm
  · rfl

/-- A drive is in front of the last segment, unless the last segment is all there is. -/
theorem lastSegment_dropDrive (h : dropDrive (lastSegment path) = lastSegment path) :
    lastSegment (dropDrive path) = lastSegment path := by
  by_cases hmem : separator ∈ path
  · unfold dropDrive
    split
    · next c rest =>
        split
        · next hletter =>
            have hc : separator ≠ c := fun heq => absurd hletter (by rw [← heq]; decide)
            have hcolon : separator ≠ ':' := by decide
            have hrest : separator ∈ rest :=
              ((List.mem_cons.1 hmem).resolve_left hc |> List.mem_cons.1).resolve_left hcolon
            exact (lastSegment_append_of_mem hrest [c, ':']).symm
        · rfl
    · rfl
  · rw [lastSegment_of_notMem hmem] at h
    rw [h]

theorem lastSegment_dropWhile (path : List Char) :
    lastSegment (path.dropWhile (· = separator)) = lastSegment path := by
  induction path with
  | nil => rfl
  | cons c rest ih =>
      rw [List.dropWhile_cons]
      split
      · next hc =>
          rw [ih, of_decide_eq_true hc]
          exact (lastSegment_append [] rest).symm
      · rfl

theorem dropWhile_ne_separator_eq_nil (h : separator ∉ path) :
    path.dropWhile (· ≠ separator) = [] :=
  List.dropWhile_eq_nil_iff.2 fun _ hc => decide_eq_true fun heq => h (heq ▸ hc)

theorem dropWhile_ne_separator (h : separator ∉ front) (rest : List Char) :
    (front ++ separator :: rest).dropWhile (· ≠ separator) = separator :: rest := by
  rw [List.dropWhile_append, dropWhile_ne_separator_eq_nil h]
  simp

/-- A path is cut at its first separator. -/
theorem exists_of_dropWhile_eq_cons {c : Char} (h : path.dropWhile (· ≠ separator) = c :: rest) :
    ∃ first, separator ∉ first ∧ path = first ++ separator :: rest := by
  have hc : c = separator := by
    have hhead := List.head_dropWhile_not (· ≠ separator) (l := path) (by rw [h]; simp)
    simpa only [h, List.head_cons, decide_eq_false_iff_not, not_not] using hhead
  subst hc
  refine ⟨path.takeWhile (· ≠ separator), fun hmem => ?_, ?_⟩
  · simpa using List.mem_takeWhile_imp hmem
  · rw [← h, List.takeWhile_append_dropWhile]

theorem eq_of_append_separator {front' segment' : List Char} (h : separator ∉ segment)
    (h' : separator ∉ segment')
    (heq : front ++ separator :: segment = front' ++ separator :: segment') :
    front = front' ∧ segment = segment' := by
  have hsegment := congrArg lastSegment heq
  rw [lastSegment_append, lastSegment_append, lastSegment_of_notMem h, lastSegment_of_notMem h']
    at hsegment
  rw [hsegment] at heq
  exact ⟨List.append_cancel_right heq, hsegment⟩

/-! ## Shares -/

/-- The name of a server. -/
structure IsServer (server : List Char) : Prop where
  nonempty : server ≠ []
  whole : separator ∉ server

/-- The path is a network share, and no more than that. -/
def IsShare (path : List Char) : Prop :=
  ∃ server share, IsServer server ∧ separator ∉ share ∧
    path = '\\' :: '\\' :: (server ++ separator :: share)

theorem dropShare?_of_isShare (h : IsShare path) : dropShare? path = some [] := by
  obtain ⟨server, share, hserver, hshare, rfl⟩ := h
  have hhead : (server ++ separator :: share).head? ≠ some separator := by
    obtain ⟨c, server, rfl⟩ := List.exists_cons_of_ne_nil hserver.nonempty
    exact fun heq => hserver.whole (Option.some.inj heq ▸ List.mem_cons_self)
  have hnot : share.head? ≠ some separator := fun heq => hshare (List.mem_of_head? heq)
  rw [dropShare?, if_neg hhead, dropWhile_ne_separator hserver.whole]
  simp only []
  rw [if_neg hnot, dropWhile_ne_separator_eq_nil hshare, List.drop_nil]

/-- Behind a share there is nothing, or the share ends at a separator. -/
theorem isShare_or_of_dropShare? (h : dropShare? path = some rest) :
    IsShare path ∨ ∃ front, path = front ++ separator :: rest := by
  unfold dropShare? at h
  split at h
  · next server =>
      split at h
      · cases h
      · next hhead =>
          split at h
          · cases h
          · next hcut =>
              obtain ⟨name, hname, rfl⟩ := exists_of_dropWhile_eq_cons hcut
              split at h
              · cases h
              · next share hshare =>
                  have hserver : IsServer name :=
                    ⟨fun hnil => hhead (by rw [hnil]; rfl), hname⟩
                  have hrest := Option.some.inj h
                  cases hdrop : share.dropWhile (· ≠ separator) with
                  | nil =>
                      refine .inl ⟨name, share, hserver, fun hmem => ?_, rfl⟩
                      have hother := List.dropWhile_eq_nil_iff.1 hdrop _ hmem
                      exact absurd rfl (of_decide_eq_true hother)
                  | cons c more =>
                      obtain ⟨first, -, hfirst⟩ := exists_of_dropWhile_eq_cons hdrop
                      rw [hdrop, List.drop_one, List.tail_cons] at hrest
                      refine .inr ⟨'\\' :: '\\' :: (name ++ separator :: first), ?_⟩
                      rw [hfirst, hrest]
                      simp
  · cases h

theorem dropAnchor_of_isShare (h : IsShare (dropExtendedMarker path)) : dropAnchor path = [] := by
  rw [dropAnchor, dropShare?_of_isShare h]

/-- The anchor is in front of the last segment, unless that is the share of a server. -/
theorem lastSegment_dropAnchor (h : ¬IsShare (dropExtendedMarker path))
    (hdrive : dropDrive (lastSegment path) = lastSegment path) :
    lastSegment (dropAnchor path) = lastSegment path := by
  rw [← lastSegment_dropExtendedMarker path] at hdrive ⊢
  rw [dropAnchor]
  split
  · next rest hrest =>
      obtain ⟨front, hfront⟩ := (isShare_or_of_dropShare? hrest).resolve_left h
      rw [hfront, lastSegment_append]
  · rw [lastSegment_dropWhile, lastSegment_dropDrive hdrive]

/-! ## Servers -/

/-- What stands in front of the name of a share: the name of a server behind two separators, with
or without the marker of an extended path. -/
inductive ServerRoot : List Char → Prop
  | plain {server : List Char} (h : IsServer server) (hmarker : server ≠ ['?']) :
    ServerRoot ('\\' :: '\\' :: server)
  | extended {server : List Char} (h : IsServer server) :
    ServerRoot ('\\' :: '\\' :: '?' :: '\\' :: '\\' :: '\\' :: server)
  | extendedShare {server : List Char} (h : IsServer server) :
    ServerRoot ('\\' :: '\\' :: '?' :: '\\' :: 'U' :: 'N' :: 'C' :: '\\' :: server)

/-- The name of a server is no marker, unless it is a question mark. -/
theorem IsServer.not_marker {server : List Char} (h : IsServer server) (hmarker : server ≠ ['?']) :
    server ++ separator :: segment ≠ '?' :: '\\' :: rest := by
  intro heq
  cases server with
  | nil => exact h.nonempty rfl
  | cons c server =>
      cases server with
      | nil =>
          cases heq
          exact hmarker rfl
      | cons c' server =>
          cases heq
          exact h.whole (List.mem_cons_of_mem _ List.mem_cons_self)

theorem dropExtendedMarker_server {server : List Char} (h : IsServer server)
    (hmarker : server ≠ ['?']) :
    dropExtendedMarker ('\\' :: '\\' :: (server ++ separator :: segment)) =
      '\\' :: '\\' :: (server ++ separator :: segment) := by
  unfold dropExtendedMarker
  split
  · next hpath => exact absurd (List.cons.inj (List.cons.inj hpath).2).2 (h.not_marker hmarker)
  · next hpath => exact absurd (List.cons.inj (List.cons.inj hpath).2).2 (h.not_marker hmarker)
  · rfl

theorem isShare_of_serverRoot (hsegment : separator ∉ segment) (h : ServerRoot front) :
    IsShare (dropExtendedMarker (front ++ separator :: segment)) := by
  cases h with
  | plain hserver hmarker =>
      exact ⟨_, segment, hserver, hsegment, dropExtendedMarker_server hserver hmarker⟩
  | extended hserver => exact ⟨_, segment, hserver, hsegment, rfl⟩
  | extendedShare hserver => exact ⟨_, segment, hserver, hsegment, rfl⟩

theorem serverRoot_of_isShare (hsegment : separator ∉ segment)
    (h : IsShare (dropExtendedMarker (front ++ separator :: segment))) : ServerRoot front := by
  obtain ⟨server, share, hserver, hshare, hshape⟩ := h
  -- What is in front of the share is in front of the segment, since neither has a separator.
  have hfront : ∀ marker : List Char,
      front ++ separator :: segment = marker ++ (server ++ separator :: share) →
        front = marker ++ server := fun marker heq =>
    (eq_of_append_separator hsegment hshare (by rw [heq, List.append_assoc])).1
  unfold dropExtendedMarker at hshape
  split at hshape
  · next rest hpath =>
      cases hshape
      rw [hfront ['\\', '\\', '?', '\\', 'U', 'N', 'C', '\\'] hpath]
      exact .extendedShare hserver
  · next rest _ hpath =>
      subst hshape
      rw [hfront ['\\', '\\', '?', '\\', '\\', '\\'] hpath]
      exact .extended hserver
  · next hmarker =>
      obtain rfl : front = '\\' :: '\\' :: server := hfront ['\\', '\\'] hshape
      refine .plain hserver fun hquestion => ?_
      subst hquestion
      exact hmarker segment rfl

/-! ## The name of the file -/

theorem fileName_of_lastSegment
    (h : lastSegment (dropAnchor (path.map unifySeparator)) = segment) (hnonempty : segment ≠ [])
    (hperiod : segment ≠ ['.']) : fileName path = segment := by
  have hlast := getLast?_splitOn (dropAnchor (path.map unifySeparator))
  rw [h] at hlast
  obtain ⟨front, hfront⟩ := List.getLast?_eq_some_iff.1 hlast
  rw [fileName, components, hfront, List.filter_append]
  simp [hnonempty, hperiod]

theorem fileName_of_dropAnchor_eq_nil (h : dropAnchor (path.map unifySeparator) = []) :
    fileName path = [] := by
  rw [fileName, components, h, splitOn_of_not_infix (by simp) (by simp)]
  rfl

/-- What is behind the last separator, and could name a file. -/
structure IsSegment (segment : List Char) : Prop where
  nonempty : segment ≠ []
  not_period : segment ≠ ['.']
  whole : separator ∉ segment
  no_drive : dropDrive segment = segment

theorem fileName_of_serverRoot (hsegment : IsSegment segment)
    (hpath : path.map unifySeparator = front ++ separator :: segment) (h : ServerRoot front) :
    fileName path = [] := by
  refine fileName_of_dropAnchor_eq_nil (dropAnchor_of_isShare ?_)
  rw [hpath]
  exact isShare_of_serverRoot hsegment.whole h

theorem fileName_of_not_serverRoot (hsegment : IsSegment segment)
    (hpath : path.map unifySeparator = front ++ separator :: segment) (h : ¬ServerRoot front) :
    fileName path = segment := by
  have hlast : lastSegment (front ++ separator :: segment) = segment := by
    rw [lastSegment_append, lastSegment_of_notMem hsegment.whole]
  refine fileName_of_lastSegment ?_ hsegment.nonempty hsegment.not_period
  rw [hpath, lastSegment_dropAnchor (fun hshare => h (serverRoot_of_isShare hsegment.whole hshare)),
    hlast]
  rw [hlast, hsegment.no_drive]

theorem fileName_of_isSegment (hsegment : IsSegment segment)
    (hpath : path.map unifySeparator = segment) : fileName path = segment := by
  have hmarker : dropExtendedMarker segment = segment := by
    unfold dropExtendedMarker
    split
    · exact absurd List.mem_cons_self hsegment.whole
    · exact absurd List.mem_cons_self hsegment.whole
    · rfl
  have hshare : ¬IsShare (dropExtendedMarker segment) := by
    rw [hmarker]
    rintro ⟨server, share, -, -, rfl⟩
    exact hsegment.whole List.mem_cons_self
  have hlast : lastSegment segment = segment := lastSegment_of_notMem hsegment.whole
  refine fileName_of_lastSegment ?_ hsegment.nonempty hsegment.not_period
  rw [hpath, lastSegment_dropAnchor hshare, hlast]
  rw [hlast, hsegment.no_drive]

/-- Extensions are cut off as if they had never been there. -/
theorem dropExtensions_append {name : List Char} (hnonempty : name ≠ []) (hperiod : name ≠ ['.'])
    (extension : List Char) :
    dropExtensions (name ++ '.' :: extension) = dropExtensions name := by
  have hcut : ∀ base : List Char, (base ++ '.' :: extension).takeWhile (· ≠ '.') =
      base.takeWhile (· ≠ '.') := by
    intro base
    rw [List.takeWhile_append]
    split
    · next hall =>
        rw [(List.takeWhile_prefix _).eq_of_length hall]
        simp
    · rfl
  cases name with
  | nil => exact absurd rfl hnonempty
  | cons c base =>
      by_cases hc : c = '.'
      · subst hc
        exact hcut base
      · have hplain : ∀ rest, dropExtensions (c :: rest) = (c :: rest).takeWhile (· ≠ '.') := by
          intro rest
          unfold dropExtensions
          split
          · next heq => exact absurd (List.cons.inj heq).1 hc
          · rfl
        rw [List.cons_append, hplain, hplain, ← List.cons_append, hcut]

theorem period_notMem_dropExtensions (name : List Char) : '.' ∉ dropExtensions name := by
  unfold dropExtensions
  split <;> exact fun h => by simpa using List.mem_takeWhile_imp h

theorem dropExtensions_subset (name : List Char) : dropExtensions name ⊆ name := by
  unfold dropExtensions
  split
  · exact fun c hc => List.mem_cons_of_mem _ ((List.takeWhile_prefix _).subset hc)
  · exact (List.takeWhile_prefix _).subset

theorem dropExtendedMarker_subset (path : List Char) : dropExtendedMarker path ⊆ path := by
  unfold dropExtendedMarker
  split
  · intro c hc
    simp only [List.mem_cons] at hc ⊢
    tauto
  · intro c hc
    simp only [List.mem_cons]
    tauto
  · exact List.Subset.refl _

theorem dropDrive_subset (path : List Char) : dropDrive path ⊆ path := by
  unfold dropDrive
  split
  · split
    · exact fun c hc => List.mem_cons_of_mem _ (List.mem_cons_of_mem _ hc)
    · exact List.Subset.refl _
  · exact List.Subset.refl _

theorem dropAnchor_subset (path : List Char) : dropAnchor path ⊆ path := by
  refine List.Subset.trans ?_ (dropExtendedMarker_subset path)
  unfold dropAnchor
  simp only []
  split
  · next rest hrest =>
      rcases isShare_or_of_dropShare? hrest with hshare | ⟨front, hfront⟩
      · rw [dropShare?_of_isShare hshare] at hrest
        cases hrest
        exact List.nil_subset _
      · rw [hfront]
        exact fun c hc => List.mem_append_right _ (List.mem_cons_of_mem _ hc)
  · exact List.Subset.trans (List.dropWhile_sublist _).subset (dropDrive_subset _)

/-- No separator of either kind is in the name of a file. -/
theorem separators_notMem_fileName (path : List Char) :
    '/' ∉ fileName path ∧ separator ∉ fileName path := by
  rw [fileName]
  cases hlast : (components path).getLast? with
  | none => exact ⟨List.not_mem_nil, List.not_mem_nil⟩
  | some name =>
      have hname := List.mem_of_getLast? hlast
      have hpiece := (List.mem_filter.1 hname).1
      refine ⟨fun hslash => ?_, fun hseparator => ?_⟩
      · have hmem := dropAnchor_subset _ ((infix_of_mem_splitOn (by simp) hpiece).subset hslash)
        obtain ⟨c, -, hc⟩ := List.mem_map.1 hmem
        unfold unifySeparator at hc
        split at hc
        · exact absurd hc (by decide)
        · contradiction
      · exact not_infix_of_mem_splitOn (by simp) hpiece
          ((List.singleton_infix_iff _ _).2 hseparator)

/-! ## The label -/

/-- The characters of a text, with one separator. -/
def unified (s : String) : List Char := s.toList.map unifySeparator

def IsSeparator (s : Char) : Prop := s = '/' ∨ s = separator

instance (s : Char) : Decidable (IsSeparator s) := inferInstanceAs (Decidable (_ ∨ _))

/-- The text has no separator of either kind. -/
def IsOneSegment (s : String) : Prop := ∀ c ∈ s.toList, ¬IsSeparator c

instance (s : String) : Decidable (IsOneSegment s) :=
  List.decidableBAll (fun c => ¬IsSeparator c) s.toList

/-- The name of a file in a directory. -/
structure IsFileName (name : String) : Prop where
  nonempty : name ≠ ""
  not_period : name ≠ "."
  whole : IsOneSegment name
  no_colon : ':' ∉ name.toList

theorem unified_append (s t : String) : unified (s ++ t) = unified s ++ unified t := by
  rw [unified, String.toList_append, List.map_append, unified, unified]

theorem unified_separator {s : Char} (h : IsSeparator s) :
    unified (String.singleton s) = [separator] := by
  rcases h with rfl | rfl <;> decide

theorem unified_of_isOneSegment {s : String} (h : IsOneSegment s) : unified s = s.toList := by
  refine (List.map_congr_left fun c hc => ?_).trans (List.map_id _)
  rw [unifySeparator, if_neg fun heq => h c hc (.inl heq), id_eq]

theorem dropDrive_of_no_colon {c : Char} (h : rest.head? ≠ some ':') :
    dropDrive (c :: rest) = c :: rest := by
  unfold dropDrive
  split
  · next heq =>
      cases heq
      exact absurd rfl h
  · rfl

/-- The name of a file is a segment, also with something behind it. -/
theorem IsFileName.isSegment {name : String} (h : IsFileName name) (tail : List Char)
    (hwhole : separator ∉ tail) (hcolon : tail.head? ≠ some ':') :
    IsSegment (name.toList ++ tail) := by
  obtain ⟨c, rest, hname⟩ := List.exists_cons_of_ne_nil (mt String.toList_eq_nil_iff.1 h.nonempty)
  refine ⟨?_, fun hperiod => ?_, ?_, ?_⟩
  · rw [hname]
    exact List.cons_ne_nil _ _
  · rw [hname, List.cons_append, List.cons.injEq, List.append_eq_nil_iff] at hperiod
    obtain ⟨rfl, rfl, -⟩ := hperiod
    exact h.not_period (String.toList_inj.1 hname)
  · rw [List.mem_append, not_or]
    exact ⟨fun hmem => h.whole _ hmem (.inr rfl), hwhole⟩
  · rw [hname, List.cons_append]
    refine dropDrive_of_no_colon ?_
    cases rest with
    | nil => exact hcolon
    | cons c' rest =>
        intro heq
        have hmem : ':' ∈ name.toList := by
          rw [hname, ← Option.some.inj heq]
          exact List.mem_cons_of_mem _ List.mem_cons_self
        exact h.no_colon hmem

theorem fileName_of_isFileName {name : String} (h : IsFileName name) :
    fileName name.toList = name.toList := by
  have hsegment := h.isSegment [] List.not_mem_nil (by decide)
  rw [List.append_nil] at hsegment
  exact fileName_of_isSegment hsegment (unified_of_isOneSegment h.whole)

/-- The file in a directory is the whole of what is behind the directory, unless the directory is a
server. -/
theorem fileName_in_directory {d name tail : String} {s : Char} (hs : IsSeparator s)
    (hname : IsFileName name) (htail : IsOneSegment tail) (hcolon : tail.toList.head? ≠ some ':') :
    (ServerRoot (unified d) →
      fileName (d ++ String.singleton s ++ (name ++ tail)).toList = []) ∧
    (¬ServerRoot (unified d) →
      fileName (d ++ String.singleton s ++ (name ++ tail)).toList =
        name.toList ++ tail.toList) := by
  have hsegment : IsSegment (name.toList ++ tail.toList) :=
    hname.isSegment _ (fun hmem => htail _ hmem (.inr rfl)) hcolon
  have hpath : (d ++ String.singleton s ++ (name ++ tail)).toList.map unifySeparator =
      unified d ++ separator :: (name.toList ++ tail.toList) := by
    rw [← unified, unified_append, unified_append, unified_append, unified_separator hs,
      unified_of_isOneSegment hname.whole, unified_of_isOneSegment htail, List.append_assoc,
      List.singleton_append]
  exact ⟨fileName_of_serverRoot hsegment hpath, fileName_of_not_serverRoot hsegment hpath⟩

/-- The characters that separate the parts of a path and of the name of a file. -/
def punctuation : List CodeRange := [(0x2E, 0x2F), (0x5C, 0x5C)]

theorem inRanges_punctuation {c : Char} :
    inRanges punctuation c.toNat = true ↔ c = '.' ∨ IsSeparator c := by
  constructor
  · intro h
    obtain ⟨r, hr, hle, hge⟩ := inRanges_iff.1 h
    have hcode : c.toNat = 0x2E ∨ c.toNat = 0x2F ∨ c.toNat = 0x5C := by
      rcases List.mem_cons.1 hr with rfl | hr
      · simp only [] at hle hge
        omega
      · rw [List.mem_singleton.1 hr] at hle hge
        omega
    rw [← Char.ofNat_toNat c]
    rcases hcode with hcode | hcode | hcode
    · exact .inl (by rw [hcode])
    · exact .inr (.inl (by rw [hcode]))
    · exact .inr (.inr (by rw [hcode]; rfl))
  · rintro (rfl | rfl | rfl) <;> decide

theorem not_punctuation_of_mem_toolName {path : String} {c : Char}
    (hc : c ∈ (toolName path).toList) : c ≠ '.' ∧ ¬IsSeparator c := by
  have hname : ∀ d ∈ dropExtensions (fileName path.toList),
      ¬inRanges punctuation d.toNat = true := by
    intro d hd hpunctuation
    obtain ⟨hslash, hseparator⟩ := separators_notMem_fileName path.toList
    rcases inRanges_punctuation.1 hpunctuation with rfl | rfl | rfl
    · exact period_notMem_dropExtensions _ hd
    · exact hslash (dropExtensions_subset _ hd)
    · exact hseparator (dropExtensions_subset _ hd)
  have hcaseless : Caseless punctuation := by decide +kernel
  rw [toolName, String.toList_ofList] at hc
  have hnot := not_inRanges_lowerChars hcaseless hname c hc
  rwa [inRanges_punctuation, not_or] at hnot

theorem toolName_of_fileName {path : String} {name : List Char}
    (h : fileName path.toList = name) :
    toolName path = String.ofList (lowerChars (dropExtensions name)) := by
  rw [toolName, h]

/-- The label of a tool tells nothing of its directory but whether that is a server, of which the
tool would be a share, and nothing of its extensions. No path brings a period or a separator into
it. -/
theorem toolName_tells_last_segment_only :
    (∀ d s name, IsSeparator s → IsFileName name →
      (¬ServerRoot (unified d) → toolName (d ++ String.singleton s ++ name) = toolName name) ∧
      (ServerRoot (unified d) → toolName (d ++ String.singleton s ++ name) = "") ∧
      ∀ extension, IsOneSegment extension →
        toolName (d ++ String.singleton s ++ name ++ "." ++ extension) =
          toolName (d ++ String.singleton s ++ name)) ∧
    ∀ path, ∀ c ∈ (toolName path).toList, c ≠ '.' ∧ ¬IsSeparator c := by
  refine ⟨fun d s name hs hname => ?_, fun path c hc => not_punctuation_of_mem_toolName hc⟩
  have hempty : IsOneSegment "" := fun c hc => absurd hc List.not_mem_nil
  have hbare := fileName_in_directory (d := d) hs hname hempty (by decide)
  rw [String.append_empty, String.toList_empty, List.append_nil] at hbare
  obtain ⟨hshare, hfile⟩ := hbare
  refine ⟨fun h => ?_, fun h => toolName_of_fileName (hshare h), fun extension hextension => ?_⟩
  · rw [toolName_of_fileName (hfile h), toolName_of_fileName (fileName_of_isFileName hname)]
  · have htail : IsOneSegment ("." ++ extension) := by
      intro c hc
      rw [String.toList_append] at hc
      rcases List.mem_append.1 hc with hc | hc
      · rw [List.mem_singleton.1 hc]
        exact not_or.2 ⟨by decide, by decide⟩
      · exact hextension c hc
    obtain ⟨hshare', hfile'⟩ := fileName_in_directory (d := d) hs hname htail (by simp)
    have hassoc : d ++ String.singleton s ++ name ++ "." ++ extension =
        d ++ String.singleton s ++ (name ++ ("." ++ extension)) := by
      rw [String.append_assoc, String.append_assoc]
    rw [hassoc]
    by_cases h : ServerRoot (unified d)
    · rw [toolName_of_fileName (hshare h), toolName_of_fileName (hshare' h)]
    · have hcut := dropExtensions_append (mt String.toList_eq_nil_iff.1 hname.nonempty)
        (fun hperiod => hname.not_period (String.toList_inj.1 hperiod)) extension.toList
      rw [toolName_of_fileName (hfile h), toolName_of_fileName (hfile' h), String.toList_append,
        ← hcut]
      rfl

theorem terraform_told_alike :
    ¬ServerRoot (unified "\\\\?\\D:") ∧ ServerRoot (unified "//server") ∧
      IsFileName ".Terraform" ∧ IsOneSegment "exe.bak" ∧
      toolName "\\\\?\\D:/.Terraform.exe.bak" = toolName ".Terraform" ∧
      toolName "//server\\.Terraform" = "" := by
  have hdrive : ¬ServerRoot (unified "\\\\?\\D:") := by
    have hunified : unified "\\\\?\\D:" = ['\\', '\\', '?', '\\', 'D', ':'] := by decide
    rw [hunified]
    intro h
    cases h with
    | plain hserver _ => exact hserver.whole (by decide)
  have hserver : ServerRoot (unified "//server") := by
    have hname : IsServer ['s', 'e', 'r', 'v', 'e', 'r'] := ⟨by decide, by decide⟩
    exact .plain hname (by decide)
  have hname : IsFileName ".Terraform" := ⟨by decide, by decide, by decide, by decide⟩
  have hextension : IsOneSegment "exe.bak" := by decide
  obtain ⟨hlabel, -, hcut⟩ :=
    toolName_tells_last_segment_only.1 "\\\\?\\D:" '/' ".Terraform" (.inl rfl) hname
  obtain ⟨-, hshare, -⟩ :=
    toolName_tells_last_segment_only.1 "//server" '\\' ".Terraform" (.inr rfl) hname
  exact ⟨hdrive, hserver, hname, hextension, (hcut "exe.bak" hextension).trans (hlabel hdrive),
    hshare hserver⟩

end CommandTelemetry.Label
