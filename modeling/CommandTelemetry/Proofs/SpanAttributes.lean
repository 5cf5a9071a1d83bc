import Mathlib.Data.List.Dedup
import Mathlib.Data.List.Perm.Subperm
import CommandTelemetry.Proofs.NormalAttributes
import CommandTelemetry.Trace.Span

/-!
# What a span keeps of what is written on it

Writing on a span that records changes its attributes and nothing else, so any number of writes is
one change of the list of attributes: `storeAll`. A span drops what was written first once it is
full. As long as there is room for all keys that are written, nothing is dropped, and under a key
stands what was written there last.

Room is counted in different keys. To write a key again takes no further room. An empty key is never
kept, and neither is a list with an exit code in it: what stood under its key goes on to stand
there.
-/

namespace CommandTelemetry.Trace.Span

open Attribute Text

/-- The attributes after some writes, in their order. -/
def storeAll (limits : Limits) (attrs writes : Attributes) : Attributes :=
  writes.foldl (fun as e => store limits as e.1 e.2) attrs

theorem storeAll_append (limits : Limits) (attrs ws vs : Attributes) :
    storeAll limits attrs (ws ++ vs) = storeAll limits (storeAll limits attrs ws) vs :=
  List.foldl_append

theorem setAttributes_cons (span : Span) (e : String × Value) (rest : Attributes) :
    span.setAttributes (e :: rest) = (span.setAttribute e.1 e.2).setAttributes rest := rfl

/-! ## Spans that record, and others -/

theorem setAttributes_of_recording {span : Span} (h : span.isRecording = true)
    (writes : Attributes) :
    span.setAttributes writes =
      { span with attributes := storeAll span.limits span.attributes writes } := by
  induction writes generalizing span with
  | nil => rfl
  | cons e rest ih =>
      have hnext : ({ span with attributes := store span.limits span.attributes e.1 e.2 } :
          Span).isRecording = true := h
      rw [setAttributes_cons, setAttribute, if_pos h]
      exact ih hnext

theorem setError_of_recording {span : Span} (h : span.isRecording = true) (d : String) :
    span.setError d = { span with status := .error d } := by
  rw [setError, if_pos h]

theorem setAttributes_of_not_recording {span : Span} (h : span.isRecording = false)
    (writes : Attributes) : span.setAttributes writes = span := by
  induction writes with
  | nil => rfl
  | cons e rest ih =>
      rw [setAttributes_cons, setAttribute, if_neg (by rw [h]; exact Bool.false_ne_true), ih]

theorem setError_of_not_recording {span : Span} (h : span.isRecording = false) (d : String) :
    span.setError d = span := by
  rw [setError, if_neg (by rw [h]; exact Bool.false_ne_true)]

/-- Writing attributes changes nothing else, whether the span records or not. -/
theorem setAttributes_eq (span : Span) (writes : Attributes) :
    ∃ attrs, span.setAttributes writes = { span with attributes := attrs } := by
  cases h : span.isRecording with
  | true => exact ⟨_, by rw [setAttributes_of_recording h, h]⟩
  | false => exact ⟨span.attributes, by rw [setAttributes_of_not_recording h, ← h]⟩

theorem attributes_setAttributes {span : Span} {writes : Attributes}
    (h : (span.setAttributes writes).isRecording = true) :
    (span.setAttributes writes).attributes =
      storeAll (span.setAttributes writes).limits span.attributes writes := by
  obtain ⟨attrs, hattrs⟩ := setAttributes_eq span writes
  have hspan : span.isRecording = true := by
    rw [hattrs] at h
    exact h
  rw [setAttributes_of_recording hspan]

/-! ## Room -/

/-- A span of these limits has room for all of these keys. -/
def Room (limits : Limits) (keys : List String) : Prop :=
  ∀ n, limits.attributes = some n → (keys.filter (· ≠ "")).dedup.length ≤ n

/-- A value as it is kept. -/
def kept (limits : Limits) (v : Value) : Value :=
  match limits.textLength with
  | some n => cutValue n v
  | none => v

theorem kept_text {limits : Limits} {s : String}
    (h : ∀ n, limits.textLength = some n → s.length ≤ n) : kept limits (.text s) = .text s := by
  unfold kept
  split
  · next n hn =>
      have hlen : s.toList.length ≤ n := by rw [String.length_toList]; exact h n hn
      rw [cutValue, takeChars, List.take_of_length_le hlen, String.ofList_toList]
  · rfl

theorem isRefused_of_isPlain {v : Value} (h : v.isPlain = true) : isRefused v = false := by
  cases v <;> first | rfl | cases h

theorem isExit_cutValue (n : Nat) (v : Value) : (cutValue n v).isExit = v.isExit := by
  cases v <;> rfl

theorem any_isExit_cutItems (n : Nat) (items : List Value) :
    (cutItems n items).any (·.isExit) = items.any (·.isExit) := by
  induction items with
  | nil => rfl
  | cons v rest ih => rw [cutItems, List.any_cons, List.any_cons, isExit_cutValue, ih]

/-- To cut texts does not change whether a span takes a value. -/
theorem isRefused_kept (limits : Limits) (v : Value) :
    isRefused (kept limits v) = isRefused v := by
  unfold kept
  split
  · next n _ =>
      cases v with
      | list items | tuple items => exact any_isExit_cutItems n items
      | _ => rfl
  · rfl

theorem room_of_length_le {limits : Limits} {keys : List String}
    (h : ∀ n, limits.attributes = some n → keys.length ≤ n) : Room limits keys := by
  intro n hn
  have hdedup := (List.dedup_sublist (keys.filter (· ≠ ""))).length_le
  have hfilter := List.length_filter_le (· ≠ "") keys
  have hlength := h n hn
  omega

theorem Room.length_le {limits : Limits} {keys others : List String} {n : Nat}
    (h : Room limits others) (hn : limits.attributes = some n) (hkeys : keys.Nodup)
    (hsub : ∀ k ∈ keys, k ≠ "" ∧ k ∈ others) : keys.length ≤ n := by
  refine Nat.le_trans (List.Subperm.length_le (hkeys.subperm fun k hk => ?_)) (h n hn)
  rw [List.mem_dedup, List.mem_filter]
  exact ⟨(hsub k hk).2, by simpa using (hsub k hk).1⟩

theorem Room.mono {limits : Limits} {keys others : List String} (h : Room limits others)
    (hsub : ∀ k ∈ keys, k ≠ "" → k ∈ others) : Room limits keys := by
  intro n hn
  refine h.length_le hn (List.nodup_dedup _) fun k hk => ?_
  obtain ⟨hmem, hne⟩ := List.mem_filter.1 (List.mem_dedup.1 hk)
  have hne : k ≠ "" := of_decide_eq_true hne
  exact ⟨hne, hsub k hmem hne⟩

/-- No key stands twice and none is empty, as in every span. -/
def Tidy (attrs : Attributes) : Prop :=
  (attrs.map Prod.fst).Nodup ∧ "" ∉ attrs.map Prod.fst

theorem store_eq (limits : Limits) (attrs : Attributes) (k : String) (v : Value) :
    store limits attrs k v =
      if k = "" || isRefused v then attrs
      else if limits.attributes = some 0 then attrs
      else if attrs.any (·.1 = k) then attrs.filter (·.1 ≠ k) ++ [(k, kept limits v)]
      else if limits.attributes = some attrs.length then attrs.drop 1 ++ [(k, kept limits v)]
      else attrs ++ [(k, kept limits v)] := by
  rw [← isRefused_kept limits v]
  rfl

theorem store_empty (limits : Limits) (attrs : Attributes) (v : Value) :
    store limits attrs "" v = attrs := by
  rw [store_eq, if_pos (by rw [decide_eq_true rfl, Bool.true_or])]

theorem store_of_isRefused {limits : Limits} {attrs : Attributes} {k : String} {v : Value}
    (h : isRefused v = true) : store limits attrs k v = attrs := by
  rw [store_eq, if_pos (by rw [h, Bool.or_true])]

/-- Where there is room, a write takes the place of earlier ones under its key. -/
theorem store_of_room {limits : Limits} {attrs : Attributes} {k : String} {v : Value}
    (hk : k ≠ "") (hv : isRefused v = false) (htidy : Tidy attrs)
    (hroom : Room limits (k :: attrs.map Prod.fst)) :
    store limits attrs k v = attrs.filter (·.1 ≠ k) ++ [(k, kept limits v)] := by
  have hne : ∀ j ∈ k :: attrs.map Prod.fst, j ≠ "" := fun j hj h =>
    (List.mem_cons.1 (h ▸ hj)).elim (fun h => hk h.symm) htidy.2
  have hpos : limits.attributes ≠ some 0 := fun h0 => by
    have := hroom.length_le h0 (List.nodup_singleton k) fun j hj =>
      ⟨by rwa [List.mem_singleton.1 hj], List.mem_cons.2 (.inl (List.mem_singleton.1 hj))⟩
    rw [List.length_singleton] at this
    omega
  rw [store_eq, if_neg (by rw [decide_eq_false hk, hv]; exact Bool.false_ne_true), if_neg hpos]
  split
  · rfl
  · next hnew =>
      have hfresh : k ∉ attrs.map Prod.fst := by simpa using hnew
      have hfilter : attrs.filter (·.1 ≠ k) = attrs := by
        refine List.filter_eq_self.2 fun e he => ?_
        exact decide_eq_true fun h => hfresh (h ▸ List.mem_map_of_mem he)
      have hnotfull : limits.attributes ≠ some attrs.length := fun hfull => by
        have := hroom.length_le hfull (List.nodup_cons.2 ⟨hfresh, htidy.1⟩)
          fun j hj => ⟨hne j hj, hj⟩
        rw [List.length_cons, List.length_map] at this
        omega
      rw [if_neg hnotfull, hfilter]

theorem mem_keys_filter {attrs : Attributes} {j k : String}
    (h : j ∈ (attrs.filter (·.1 ≠ k)).map Prod.fst) : j ∈ attrs.map Prod.fst ∧ j ≠ k := by
  obtain ⟨e, he, rfl⟩ := List.mem_map.1 h
  obtain ⟨he, hne⟩ := List.mem_filter.1 he
  exact ⟨List.mem_map_of_mem he, of_decide_eq_true hne⟩

theorem lookup_filter_ne {attrs : Attributes} {j k : String} (h : j ≠ k) :
    (attrs.filter (·.1 ≠ k)).lookup j = attrs.lookup j := by
  induction attrs with
  | nil => rfl
  | cons e rest ih =>
      by_cases hk : e.1 = k
      · have hj : (j == e.1) = false := beq_false_of_ne (hk ▸ h)
        rw [List.filter_cons_of_neg (by simpa using hk), ih, List.lookup_cons, hj]
      · rw [List.filter_cons_of_pos (by simpa using hk), List.lookup_cons, List.lookup_cons, ih]

theorem lookup_filter_self (attrs : Attributes) (k : String) :
    (attrs.filter (·.1 ≠ k)).lookup k = none := by
  refine List.lookup_eq_none_iff.2 fun e he => ?_
  simpa using Ne.symm (of_decide_eq_true (List.mem_filter.1 he).2)

theorem lookup_single_ne {j k : String} (h : j ≠ k) (v : Value) : [(k, v)].lookup j = none := by
  rw [List.lookup_cons, beq_false_of_ne h]
  rfl

theorem lookup_single_self (k : String) (v : Value) : [(k, v)].lookup k = some v :=
  List.lookup_cons_self

/-! ## One write, many writes -/

variable {limits : Limits} {attrs : Attributes}

theorem Tidy.sublist {others : Attributes} (h : Tidy attrs) (hsub : others.Sublist attrs) :
    Tidy others :=
  ⟨h.1.sublist (hsub.map _), fun hmem => h.2 ((hsub.map _).subset hmem)⟩

theorem Tidy.append_single {k : String} (h : Tidy attrs) (v : Value) (hk : k ≠ "")
    (hfresh : k ∉ attrs.map Prod.fst) : Tidy (attrs ++ [(k, v)]) := by
  rw [Tidy, List.map_append]
  refine ⟨List.Nodup.append h.1 (List.nodup_singleton k) fun j hj hjk => ?_, fun hmem => ?_⟩
  · rw [List.mem_singleton.1 hjk] at hj
    exact hfresh hj
  · exact (List.mem_append.1 hmem).elim h.2 fun hempty => hk (List.mem_singleton.1 hempty).symm

/-- A span is tidy after a write also where it dropped something. -/
theorem tidy_store (limits : Limits) (k : String) (v : Value) (htidy : Tidy attrs) :
    Tidy (store limits attrs k v) := by
  rw [store_eq]
  split
  · exact htidy
  · next hkept =>
      have hk : k ≠ "" := fun h => hkept (by rw [decide_eq_true h, Bool.true_or])
      split
      · exact htidy
      · split
        · exact (htidy.sublist List.filter_sublist).append_single _ hk fun hmem =>
            (mem_keys_filter hmem).2 rfl
        · next hnew =>
            have hfresh : k ∉ attrs.map Prod.fst := by simpa using hnew
            split
            · exact (htidy.sublist (List.drop_sublist _ _)).append_single _ hk fun hmem =>
                hfresh (((List.drop_sublist _ _).map _).subset hmem)
            · exact htidy.append_single _ hk hfresh

theorem tidy_storeAll (limits : Limits) (writes : Attributes) (htidy : Tidy attrs) :
    Tidy (storeAll limits attrs writes) := by
  induction writes generalizing attrs with
  | nil => exact htidy
  | cons e rest ih => exact ih (tidy_store limits e.1 e.2 htidy)

theorem tidy_setAttributes {span : Span} (h : Tidy span.attributes) (writes : Attributes) :
    Tidy (span.setAttributes writes).attributes := by
  cases hrecording : span.isRecording with
  | true =>
      rw [setAttributes_of_recording hrecording]
      exact tidy_storeAll _ _ h
  | false =>
      rw [setAttributes_of_not_recording hrecording]
      exact h

theorem mem_keys_store {j k : String} {v : Value} (htidy : Tidy attrs)
    (hroom : Room limits (k :: attrs.map Prod.fst))
    (h : j ∈ (store limits attrs k v).map Prod.fst) : j ∈ k :: attrs.map Prod.fst := by
  by_cases hk : k = ""
  · rw [hk, store_empty] at h
    exact List.mem_cons_of_mem _ h
  cases hv : isRefused v with
  | true =>
    rw [store_of_isRefused hv] at h
    exact List.mem_cons_of_mem _ h
  | false =>
    rw [store_of_room hk hv htidy hroom, List.map_append] at h
    rcases List.mem_append.1 h with h | h
    · exact List.mem_cons_of_mem _ (mem_keys_filter h).1
    · exact List.mem_cons.2 (.inl (List.mem_singleton.1 h))

theorem lookup_store {j k : String} {v : Value} (hj : j ≠ "")
    (hv : k = j → isRefused v = false) (htidy : Tidy attrs)
    (hroom : Room limits (k :: attrs.map Prod.fst)) :
    (store limits attrs k v).lookup j =
      (([(k, v)].lookup j).map (kept limits)).or (attrs.lookup j) := by
  by_cases hjk : j = k
  · subst hjk
    rw [store_of_room hj (hv rfl) htidy hroom, List.lookup_append, lookup_filter_self,
      lookup_single_self, lookup_single_self, Option.none_or]
    rfl
  -- Under another key it is all the same whether the value is taken.
  · rw [lookup_single_ne hjk, Option.map_none, Option.none_or]
    by_cases hk : k = ""
    · rw [hk, store_empty]
    cases hrefused : isRefused v with
    | true => rw [store_of_isRefused hrefused]
    | false =>
        rw [store_of_room hk hrefused htidy hroom, List.lookup_append, lookup_filter_ne hjk,
          lookup_single_ne hjk, Option.or_none]

theorem Room.write {k : String} {rest : List String} (v : Value) (htidy : Tidy attrs)
    (hroom : Room limits (attrs.map Prod.fst ++ k :: rest)) :
    Room limits (k :: attrs.map Prod.fst) ∧
      Room limits ((store limits attrs k v).map Prod.fst ++ rest) := by
  have hfirst : Room limits (k :: attrs.map Prod.fst) := hroom.mono fun j hj _ => by
    rcases List.mem_cons.1 hj with rfl | hj
    · exact List.mem_append_right _ List.mem_cons_self
    · exact List.mem_append_left _ hj
  refine ⟨hfirst, hroom.mono fun j hj _ => ?_⟩
  rcases List.mem_append.1 hj with hj | hj
  · rcases List.mem_cons.1 (mem_keys_store htidy hfirst hj) with rfl | hj
    · exact List.mem_append_right _ List.mem_cons_self
    · exact List.mem_append_left _ hj
  · exact List.mem_append_right _ (List.mem_cons_of_mem _ hj)

/-- Where there is room for all writes, a key holds what was last written there, provided that
nothing that was written there is refused. -/
theorem lookup_storeAll {writes : Attributes} {j : String} (hj : j ≠ "")
    (htaken : ∀ w ∈ writes, w.1 = j → isRefused w.2 = false) (htidy : Tidy attrs)
    (hroom : Room limits (attrs.map Prod.fst ++ writes.map Prod.fst)) :
    (storeAll limits attrs writes).lookup j =
      ((writes.reverse.lookup j).map (kept limits)).or (attrs.lookup j) := by
  induction writes generalizing attrs with
  | nil => rfl
  | cons e rest ih =>
      obtain ⟨k, v⟩ := e
      obtain ⟨hv, htaken⟩ := List.forall_mem_cons.1 htaken
      obtain ⟨hfirst, hrest⟩ := Room.write v htidy hroom
      rw [storeAll, List.foldl_cons, ← storeAll, ih htaken (tidy_store limits k v htidy) hrest,
        lookup_store hj hv htidy hfirst, List.reverse_cons, List.lookup_append, Option.map_or,
        Option.or_assoc]

theorem lookup_storeAll_nil {limits : Limits} {writes : Attributes} {j : String} (hj : j ≠ "")
    (htaken : ∀ w ∈ writes, w.1 = j → isRefused w.2 = false)
    (hroom : Room limits (writes.map Prod.fst)) :
    (storeAll limits [] writes).lookup j = (writes.reverse.lookup j).map (kept limits) := by
  have htidy : Tidy [] := ⟨List.nodup_nil, List.not_mem_nil⟩
  rw [lookup_storeAll hj htaken htidy hroom]
  exact Option.or_none

end CommandTelemetry.Trace.Span
