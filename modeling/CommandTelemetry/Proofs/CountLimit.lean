import CommandTelemetry.Proofs.AttributeWrites
import CommandTelemetry.Proofs.KeyOrder

/-!
# A limit on the number of attributes only selects

All facts are normalized before the limit on their number is looked at. So the limit has no say in
what a value looks like or in whether normalization fails. It says which of the attributes stay:
those with the smallest keys, in the order of their keys, once there are more than it allows. The
others are named in the one record that is logged then.

What is kept under a limit is therefore kept under every higher one. Because sorting forgets the
order in which facts came, so does the limit: facts under keys with different texts may come in any
order.
-/

namespace CommandTelemetry.Attribute

open Value

variable {attrs others : Attributes} {n m : Int}

/-! ## Selection -/

/-- The attributes with the smallest keys are kept, as many as the limit allows. The keys rise
through what is kept and on through what is dropped, and no attribute is in neither. -/
structure Selects (n : Int) (all kept dropped : Attributes) : Prop where
  parts : (kept ++ dropped).Perm all
  ascending : ((kept ++ dropped).map Prod.fst).Pairwise (· < ·)
  count : (kept.length : Int) = max n 0

theorem select_of_length_le (h : (attrs.length : Int) ≤ n) :
    select (some n) attrs = ⟨attrs, []⟩ := if_pos h

theorem select_of_lt (h : n < attrs.length) :
    select (some n) attrs = ⟨(attrs.mergeSort textKeyLE).take n.toNat,
      [⟨.debug, logger,
        droppedMessage n (((attrs.mergeSort textKeyLE).drop n.toNat).map Prod.fst)⟩]⟩ :=
  if_neg (by omega)

theorem selects_of_lt (hkeys : (attrs.map Prod.fst).Nodup) (h : n < attrs.length) :
    Selects n attrs ((attrs.mergeSort textKeyLE).take n.toNat)
      ((attrs.mergeSort textKeyLE).drop n.toNat) where
  parts := by
    rw [List.take_append_drop]
    exact List.mergeSort_perm attrs _
  ascending := by
    rw [List.take_append_drop]
    exact List.pairwise_map.2 (mergeSort_ascending hkeys)
  count := by
    rw [List.length_take, List.length_mergeSort]
    omega

theorem mem_of_mem_select {limit : Option Int} {a : String × Value}
    (h : a ∈ (select limit attrs).value) : a ∈ attrs := by
  cases limit with
  | none => exact h
  | some n =>
      rcases lt_or_ge n (attrs.length : Int) with hlt | hle
      · rw [select_of_lt hlt] at h
        exact List.mem_mergeSort.1 (List.mem_of_mem_take h)
      · rwa [select_of_length_le hle] at h

theorem nodup_keys_select {limit : Option Int} (hkeys : (attrs.map Prod.fst).Nodup) :
    ((select limit attrs).value.map Prod.fst).Nodup := by
  cases limit with
  | none => exact hkeys
  | some n =>
      rcases lt_or_ge n (attrs.length : Int) with hlt | hle
      · rw [select_of_lt hlt]
        have hsorted := ((List.mergeSort_perm attrs textKeyLE).map Prod.fst).nodup_iff.2 hkeys
        exact hsorted.sublist ((List.take_sublist _ _).map _)
      · rwa [select_of_length_le hle]

theorem length_select_le_length (limit : Option Int) :
    (select limit attrs).value.length ≤ attrs.length := by
  cases limit with
  | none => exact Nat.le_refl _
  | some n =>
      rcases lt_or_ge n (attrs.length : Int) with hlt | hle
      · rw [select_of_lt hlt, List.length_take, List.length_mergeSort]
        exact Nat.min_le_right _ _
      · rw [select_of_length_le hle]

theorem length_select_le : ((select (some n) attrs).value.length : Int) ≤ max n 0 := by
  rcases lt_or_ge n (attrs.length : Int) with hlt | hle
  · rw [select_of_lt hlt, List.length_take]
    omega
  · rw [select_of_length_le hle]
    exact le_trans hle (le_max_left n 0)

theorem mem_select_of_le {a : String × Value} (hle : n ≤ m)
    (h : a ∈ (select (some n) attrs).value) : a ∈ (select (some m) attrs).value := by
  rcases lt_or_ge m (attrs.length : Int) with hm | hm
  · rw [select_of_lt (by omega)] at h
    rw [select_of_lt hm]
    exact List.take_subset_take_left _ (Int.toNat_le_toNat hle) h
  · rw [select_of_length_le hm]
    exact mem_of_mem_select h

theorem select_of_perm (hperm : others.Perm attrs) (hkeys : (attrs.map Prod.fst).Nodup) :
    (select (some n) others).value.Perm (select (some n) attrs).value ∧
      (select (some n) others).records = (select (some n) attrs).records := by
  have hlength : others.length = attrs.length := hperm.length_eq
  rcases lt_or_ge n (attrs.length : Int) with hlt | hle
  · rw [select_of_lt hlt, select_of_lt (by omega), mergeSort_eq_of_perm hperm.symm hkeys]
    exact ⟨.rfl, rfl⟩
  · rw [select_of_length_le hle, select_of_length_le (by omega)]
    exact ⟨hperm, rfl⟩

/-! ## Normalization under different limits -/

/-- The same settings under another limit on the number of attributes. -/
def Settings.limitedTo (settings : Settings) (limit : Option Int) : Settings :=
  { settings with countLimit := limit }

variable {settings : Settings} {entries : List (Value × Value)} {out : Logged Attributes}

theorem normalize_eq_ok_iff (hne : entries ≠ []) :
    normalize settings entries = .ok out ↔
      ∃ all, normalizeAll settings entries = .ok all ∧ out = select settings.countLimit all := by
  rw [normalize, if_neg (by simpa using hne)]
  cases normalizeAll settings entries with
  | error f =>
      constructor
      · intro h
        cases h
      · rintro ⟨_, h, _⟩
        cases h
  | ok all =>
      constructor
      · intro h
        exact ⟨all, rfl, (Except.ok.inj h).symm⟩
      · rintro ⟨_, h, rfl⟩
        cases h
        rfl

/-- Without a limit on their number nothing is dropped and nothing is logged. -/
theorem normalize_of_unlimited (h : settings.countLimit = none) :
    normalize settings entries = (normalizeAll settings entries).map pure := by
  unfold normalize
  rw [h]
  cases entries with
  | nil => rfl
  | cons e rest => exact if_neg (by simp)

/-- Neither is there where the limit leaves room for all. -/
theorem normalize_of_length_le (hall : normalizeAll settings entries = .ok attrs)
    (hroom : ∀ n, settings.countLimit = some n → (attrs.length : Int) ≤ n) :
    normalize settings entries = .ok ⟨attrs, []⟩ := by
  by_cases hne : entries = []
  · subst hne
    obtain rfl : [] = attrs := Except.ok.inj hall
    rfl
  · refine (normalize_eq_ok_iff hne).2 ⟨attrs, hall, ?_⟩
    cases hlimit : settings.countLimit with
    | none => rfl
    | some n => exact (select_of_length_le (hroom n hlimit)).symm

theorem normalize_limitedTo_eq_ok_iff (hne : entries ≠ []) {limit : Option Int} :
    normalize (settings.limitedTo limit) entries = .ok out ↔
      ∃ all, normalizeAll settings entries = .ok all ∧ out = select limit all :=
  normalize_eq_ok_iff hne

/-- Whatever is kept was written, under keys that are all different, and there is no more of it than
the limit allows. -/
theorem kept_of_normalize (h : normalize settings entries = .ok out) :
    (∀ a ∈ out.value, ∃ e ∈ entries, write? settings e = .ok (some a)) ∧
      (out.value.map Prod.fst).Nodup ∧
      ∀ n, settings.countLimit = some n → (out.value.length : Int) ≤ max n 0 := by
  by_cases hne : entries = []
  · subst hne
    obtain rfl : (pure [] : Logged Attributes) = out := Except.ok.inj h
    exact ⟨fun _ ha => absurd ha List.not_mem_nil, List.nodup_nil, fun n _ => le_max_right n 0⟩
  · obtain ⟨all, hall, rfl⟩ := (normalize_eq_ok_iff hne).1 h
    refine ⟨fun a ha => ?_, nodup_keys_select (nodup_keys_normalizeAll hall), fun n hn => ?_⟩
    · exact exists_write_of_mem hall (mem_of_mem_select ha)
    · rw [hn]
      exact length_select_le

theorem keys_normalize (h : normalize settings entries = .ok out) {j : String}
    (hj : j ∈ out.value.map Prod.fst) : ∃ e ∈ entries, e.1.display = .ok j := by
  obtain ⟨a, ha, rfl⟩ := List.mem_map.1 hj
  obtain ⟨e, he, hwrite⟩ := (kept_of_normalize h).1 a ha
  exact ⟨e, he, key_of_write? hwrite⟩

theorem length_normalize_le (h : normalize settings entries = .ok out) :
    out.value.length ≤ entries.length := by
  by_cases hne : entries = []
  · subst hne
    obtain rfl : (pure [] : Logged Attributes) = out := Except.ok.inj h
    exact Nat.le_refl _
  · obtain ⟨all, hall, rfl⟩ := (normalize_eq_ok_iff hne).1 h
    exact (length_select_le_length _).trans (length_normalizeAll_le hall)

/-- Under a limit on their number, attributes are those that there are without one, or the ones with
the smallest keys among them; the others are logged. A higher limit keeps all that a lower one
keeps, and the order of the facts does not matter. -/
theorem countLimit_only_selects (hne : entries ≠ [])
    (h : normalize (settings.limitedTo (some n)) entries = .ok out) :
    ∃ all, normalize (settings.limitedTo none) entries = .ok ⟨all, []⟩ ∧
      ((all.length : Int) ≤ n → out = ⟨all, []⟩) ∧
      (n < all.length → ∃ dropped, Selects n all out.value dropped ∧
        out.records = [⟨.debug, logger, droppedMessage n (dropped.map Prod.fst)⟩]) ∧
      (∀ m, n ≤ m → ∃ more, normalize (settings.limitedTo (some m)) entries = .ok more ∧
        (more.value.map Prod.fst).Nodup ∧ ∀ a ∈ out.value, a ∈ more.value) ∧
      ∀ others, others.Perm entries → (entries.map (·.1.display)).Nodup →
        ∃ same, normalize (settings.limitedTo (some n)) others = .ok same ∧
          same.value.Perm out.value ∧ same.records = out.records := by
  obtain ⟨all, hall, rfl⟩ := (normalize_limitedTo_eq_ok_iff hne).1 h
  have hkeys : (all.map Prod.fst).Nodup := nodup_keys_normalizeAll hall
  refine ⟨all, ?_, select_of_length_le, fun hlt => ?_, fun m hm => ?_,
    fun others hperm htexts => ?_⟩
  · exact (normalize_limitedTo_eq_ok_iff hne).2 ⟨all, hall, rfl⟩
  · rw [select_of_lt hlt]
    exact ⟨_, selects_of_lt hkeys hlt, rfl⟩
  · exact ⟨select (some m) all, (normalize_limitedTo_eq_ok_iff hne).2 ⟨all, hall, rfl⟩,
      nodup_keys_select hkeys, fun a => mem_select_of_le hm⟩
  · obtain ⟨reordered, hreordered, hattrs⟩ := normalizeAll_of_perm hperm htexts hall
    have hothers : others ≠ [] := fun hnil => hne (hnil ▸ hperm).nil_eq.symm
    exact ⟨select (some n) reordered,
      (normalize_limitedTo_eq_ok_iff hothers).2 ⟨reordered, hreordered, rfl⟩,
      select_of_perm hattrs hkeys⟩

/-- Facts of a build: two keys have one text, a fact is absent and a key is sensitive. -/
def buildFacts : List (Value × Value) :=
  [(.text "tool", .text "make"), (.int 1, .text "first"), (.text "auth.token", .text "abc"),
    (.text "1", .bool true), (.text "note", .null)]

def buildAttributes : Attributes :=
  [("tool", .text "make"), ("1", .bool true), ("auth.token", .text "[redacted]")]

/-- Of the three attributes of the build, a limit of two keeps those whose keys come first. -/
theorem buildFacts_selected :
    ∃ dropped, normalize (usualSettings.limitedTo none) buildFacts = .ok ⟨buildAttributes, []⟩ ∧
      Selects 2 buildAttributes [("1", .bool true), ("auth.token", .text "[redacted]")]
        dropped := by
  have hne : buildFacts ≠ [] := List.cons_ne_nil _ _
  have hall : normalizeAll usualSettings buildFacts = .ok buildAttributes := rfl
  have hsorted : buildAttributes.mergeSort textKeyLE =
      [("1", .bool true), ("auth.token", .text "[redacted]"), ("tool", .text "make")] := by
    simp [buildAttributes, List.mergeSort, List.MergeSort.Internal.splitInTwo, textKeyLE]
  have hlimited : normalize (usualSettings.limitedTo (some 2)) buildFacts =
      .ok ⟨[("1", .bool true), ("auth.token", .text "[redacted]")],
        [⟨.debug, logger, droppedMessage 2 ["tool"]⟩]⟩ := by
    refine (normalize_limitedTo_eq_ok_iff hne).2 ⟨buildAttributes, hall, ?_⟩
    rw [select_of_lt (by decide), hsorted]
    rfl
  obtain ⟨all, hfree, -, hover, -⟩ := countLimit_only_selects hne hlimited
  cases ((normalize_limitedTo_eq_ok_iff hne).2 ⟨buildAttributes, hall, rfl⟩).symm.trans hfree
  obtain ⟨dropped, hselects, -⟩ := hover (by decide)
  exact ⟨dropped, hfree, hselects⟩

end CommandTelemetry.Attribute
