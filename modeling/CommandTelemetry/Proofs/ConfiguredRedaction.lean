import CommandTelemetry.Proofs.FinalSigma
import CommandTelemetry.Proofs.ListVariables
import CommandTelemetry.Proofs.NormalAttributes
import CommandTelemetry.Proofs.Redaction

/-!
# Configured redaction

A variable lists the fragments that make a key sensitive, between commas. A fragment and a key are
each put in lower case on their own, and then the one is searched for in the other. So a key that
has the fragment in it, letter by letter, is sensitive if the lower case of the fragment is still
there in the lower case of the key.

That holds for every fragment without a capital sigma, however long its lower case is, and for those
in which every capital sigma is settled. A fragment that is a whole word with a sigma at its end is
not among them: its sigma is final, and it is not where the word goes on in the key. Values under
such keys are recorded as they are.
-/

namespace CommandTelemetry.Attribute

open Text

/-- The variable that lists the fragments. -/
def redactVariable : String := "CMDTRACE_OTEL_REDACT_KEYS"

/-- What stands between two commas of a text, or between one and an end, without the blanks around
it, unless nothing is left. -/
def IsFragment (raw : String) (f : List Char) : Prop :=
  f ≠ [] ∧ ∃ piece ∈ raw.toList.splitOn ',', stripChars piece = f

instance (raw : String) (f : List Char) : Decidable (IsFragment raw f) :=
  inferInstanceAs (Decidable (_ ∧ _))

/-- Wherever the fragment is listed, facts under keys that have it in them are masked. -/
def IsMasked (f : List Char) : Prop :=
  ∀ (env : Environment) (raw : String) (entries : List (Value × Value)),
    env.get? redactVariable = some raw → IsFragment raw f →
    (Settings.ofEnvironment env).value.countLimit = none →
    (∀ e ∈ entries, Recordable (Settings.ofEnvironment env).value e) →
      ∃ out, normalize (Settings.ofEnvironment env).value entries = .ok out ∧
        ∀ e ∈ entries, e.2.isNull = false → ∀ key, e.1.display = .ok key → f <:+: key.toList →
          out.value.lookup key =
            some (.text (cut (Settings.ofEnvironment env).value.lengthLimit "[redacted]"))

/-! ## The fragments of a variable -/

section Fragments

variable {env : Environment} {raw : String} {f : List Char}

theorem isBlank_comma : isBlank ',' = false := by decide

theorem mem_items_iff :
    f ∈ Environment.items [','] (stripChars raw.toList) ↔ IsFragment raw f := by
  rw [Environment.items_stripChars isBlank_comma, List.mem_filter, decide_eq_true_eq, List.mem_map,
    and_comm, IsFragment]

theorem IsFragment.filled (h : IsFragment raw f) : ¬AllBlank raw.toList := by
  intro hblank
  have hmem := mem_items_iff.2 h
  rw [stripChars_eq_nil_iff.2 hblank, Environment.items, splitOn_singleton,
    List.splitOn_nil] at hmem
  exact List.not_mem_nil hmem

theorem redactKeys_of_list {keys : List String} (h : env.list? redactVariable = .ok (some keys)) :
    (Settings.ofEnvironment env).value.redactKeys = keys.map lower := by
  rw [redactVariable] at h
  rw [Settings.ofEnvironment, h]
  rfl

theorem redactKeys_of_fragment (hraw : env.get? redactVariable = some raw) (h : IsFragment raw f) :
    (Settings.ofEnvironment env).value.redactKeys =
      ((Environment.items [','] (stripChars raw.toList)).map String.ofList).map lower :=
  redactKeys_of_list (Environment.list?_of_filled (by decide) hraw h.filled)

theorem lower_mem_redactKeys (hraw : env.get? redactVariable = some raw) (h : IsFragment raw f) :
    lower (String.ofList f) ∈ (Settings.ofEnvironment env).value.redactKeys := by
  rw [redactKeys_of_fragment hraw h]
  exact List.mem_map_of_mem (List.mem_map_of_mem (mem_items_iff.2 h))

theorem IsFragment.stripChars_eq (h : IsFragment raw f) : stripChars f = f := by
  obtain ⟨-, piece, -, rfl⟩ := h
  exact (stripped_stripChars piece).stripChars_eq

theorem IsFragment.comma_notMem (h : IsFragment raw f) : ',' ∉ f := by
  obtain ⟨-, piece, hpiece, rfl⟩ := h
  rw [← splitOn_singleton] at hpiece
  intro hmem
  exact not_infix_of_mem_splitOn (List.cons_ne_nil _ _) hpiece
    ((List.singleton_infix_iff _ _).2 ((infix_stripChars piece).subset hmem))

/-- A fragment that is listed alone. -/
theorem redactKeys_alone (h : IsFragment raw f) :
    IsFragment (String.ofList f) f ∧
      (Settings.ofEnvironment [(redactVariable, String.ofList f)]).value.redactKeys =
        [lower (String.ofList f)] := by
  have hsplit : f.splitOn ',' = [f] := List.splitOn_eq_singleton h.comma_notMem
  have halone : IsFragment (String.ofList f) f := by
    refine ⟨h.1, f, ?_, h.stripChars_eq⟩
    rw [String.toList_ofList, hsplit]
    exact List.mem_cons_self
  have hlisted : Environment.get? [(redactVariable, String.ofList f)] redactVariable =
      some (String.ofList f) := List.lookup_cons_self
  refine ⟨halone, ?_⟩
  rw [redactKeys_of_fragment hlisted halone, String.toList_ofList, h.stripChars_eq,
    Environment.items, splitOn_singleton, hsplit,
    List.map_singleton, h.stripChars_eq,
    List.filter_eq_self.2 fun g hg => by rw [List.mem_singleton.1 hg]; exact decide_eq_true h.1,
    List.map_singleton, List.map_singleton]

end Fragments

/-! ## What is recorded under sensitive keys -/

variable {settings : Settings} {entries : List (Value × Value)} {e : Value × Value} {key : String}

theorem lookup_of_forall {attrs : Attributes} {k : String} {v : Value}
    (hmem : k ∈ attrs.map Prod.fst) (hall : ∀ a ∈ attrs, a.1 = k → a.2 = v) :
    attrs.lookup k = some v := by
  induction attrs with
  | nil => cases hmem
  | cons a rest ih =>
      obtain ⟨ha, hrest⟩ := List.forall_mem_cons.1 hall
      rw [List.lookup_cons]
      by_cases hk : k = a.1
      · rw [beq_iff_eq.2 hk]
        exact congrArg some (ha hk.symm)
      · rw [beq_false_of_ne hk]
        exact ih ((List.mem_cons.1 hmem).resolve_left hk) hrest

/-- Facts under other keys with the same text are masked as well, so it does not matter which of
them was written last. -/
theorem lookup_normalizeAll_of_isSensitive {attrs : Attributes}
    (h : normalizeAll settings entries = .ok attrs) (he : e ∈ entries)
    (hpresent : e.2.isNull = false) (hkey : e.1.display = .ok key)
    (hsensitive : isSensitive settings.redactKeys key = true) :
    attrs.lookup key = some (.text (cut settings.lengthLimit mask)) := by
  obtain ⟨ws, hws, rfl⟩ := normalizeAll_eq_ok_iff.1 h
  have hwrite := write?_of_isSensitive hpresent hkey hsensitive
  obtain ⟨w, hw, hew⟩ := exists_of_mem_right hws.flip he
  rw [lookup_putAll, lookup_of_forall, Option.some_or]
  · rw [List.map_reverse, List.mem_reverse]
    obtain rfl := Except.ok.inj (hwrite.symm.trans hew)
    exact List.mem_map_of_mem (List.reduceOption_mem_iff.2 hw)
  · intro a ha hak
    obtain ⟨d, -, hd⟩ := exists_of_mem_right hws
      (List.reduceOption_mem_iff.1 (List.mem_reverse.1 ha))
    exact masked_of_sensitive hd (isSensitive_iff.1 (hak ▸ hsensitive))

theorem normalize_masks (hlimit : settings.countLimit = none)
    (hopen : ∀ e ∈ entries, Recordable settings e) :
    ∃ out, normalize settings entries = .ok out ∧
      ∀ e ∈ entries, e.2.isNull = false → ∀ key, e.1.display = .ok key →
        isSensitive settings.redactKeys key = true →
          out.value.lookup key = some (.text (cut settings.lengthLimit mask)) := by
  obtain ⟨out, hout⟩ := normalize_ok_iff.2 hopen
  refine ⟨out, hout, fun e he hpresent key => ?_⟩
  rw [normalize_of_unlimited hlimit] at hout
  cases hattrs : normalizeAll settings entries with
  | error f =>
      rw [hattrs] at hout
      cases hout
  | ok attrs =>
      rw [hattrs] at hout
      cases hout
      exact lookup_normalizeAll_of_isSensitive hattrs he hpresent

/-! ## Fragments of keys -/

theorem isSensitive_of_settled {f : List Char} {key : String} (h : Settled f)
    (hlisted : lower (String.ofList f) ∈ settings.redactKeys) (hkey : f <:+: key.toList) :
    isSensitive settings.redactKeys key = true := by
  refine isSensitive_iff.2 ⟨_, hlisted, ?_⟩
  simp only [lower, String.toList_ofList]
  exact settled_iff.1 h _ hkey

theorem isMasked_of_settled {f : List Char} (h : Settled f) : IsMasked f := by
  intro env raw entries hraw hfragment hlimit hopen
  obtain ⟨out, hout, hmasked⟩ := normalize_masks hlimit hopen
  exact ⟨out, hout, fun e he hpresent key hkey hinfix => hmasked e he hpresent key hkey
    (isSensitive_of_settled h (lower_mem_redactKeys hraw hfragment) hinfix)⟩

/-- Under a key that has lost the fragment in lower case, a truth value is recorded as it is. -/
theorem not_isMasked_of_text {raw : String} {f text : List Char} (h : IsFragment raw f)
    (hkey : f <:+: text) (hlost : ¬lowerChars f <:+: lowerChars text) : ¬IsMasked f := by
  intro hmasked
  obtain ⟨halone, hkeys⟩ := redactKeys_alone h
  let settings := (Settings.ofEnvironment [(redactVariable, String.ofList f)]).value
  let fact : Value × Value := (.text (String.ofList text), .bool true)
  have hopen : isSensitive settings.redactKeys (String.ofList text) = false := by
    rw [Bool.eq_false_iff, Ne, isSensitive_iff, hkeys]
    rintro ⟨part, hpart, hinfix⟩
    rw [List.mem_singleton.1 hpart] at hinfix
    simp only [lower, String.toList_ofList] at hinfix
    exact hlost hinfix
  have hwrite : write? settings fact = .ok (some (String.ofList text, .bool true)) :=
    write?_of_open rfl rfl hopen
  obtain ⟨out, hout, hall⟩ := hmasked [(redactVariable, String.ofList f)] _ [fact]
    List.lookup_cons_self halone rfl
    fun e he => by rw [List.mem_singleton.1 he]; exact .inr ⟨_, rfl, .inr trivial⟩
  have hlookup := hall fact List.mem_cons_self rfl (String.ofList text) rfl (by simpa using hkey)
  obtain ⟨front, behind, hvalue, -⟩ := List.lookup_eq_some_iff.1 hlookup
  obtain ⟨e, he, hkept⟩ := (kept_of_normalize hout).1 _
    (hvalue ▸ List.mem_append_right front List.mem_cons_self)
  rw [List.mem_singleton.1 he, hwrite] at hkept
  cases hkept

/-- A fragment is masked in all keys that have it in them exactly if its capital sigmas are settled.
So it is if there are none. -/
theorem isMasked_iff_settled {raw : String} {f : List Char} (h : IsFragment raw f) :
    (IsMasked f ↔ Settled f) ∧ (capitalSigma ∉ f → IsMasked f) := by
  refine ⟨⟨fun hmasked => ?_, isMasked_of_settled⟩, fun hsigma =>
    isMasked_of_settled (settled_of_notMem hsigma)⟩
  refine settled_iff.2 fun text hkey => ?_
  by_contra hlost
  exact not_isMasked_of_text h hkey hlost hmasked

/-- A secret in Greek, whose sigma stands between letters. -/
theorem greekSecret_isMasked :
    IsFragment " token ,, ΜΥΣΤΙΚΟ " "ΜΥΣΤΙΚΟ".toList ∧ Settled "ΜΥΣΤΙΚΟ".toList ∧
      IsMasked "ΜΥΣΤΙΚΟ".toList :=
  have hfragment : IsFragment " token ,, ΜΥΣΤΙΚΟ " "ΜΥΣΤΙΚΟ".toList := by decide +kernel
  have hsettled : Settled "ΜΥΣΤΙΚΟ".toList := by decide +kernel
  ⟨hfragment, hsettled, (isMasked_iff_settled hfragment).1.2 hsettled⟩

/-- A password in Greek ends with a sigma, and a longer key goes on behind it. -/
theorem greekPassword_recorded :
    IsFragment "ΚΩΔΙΚΟΣ" "ΚΩΔΙΚΟΣ".toList ∧ "ΚΩΔΙΚΟΣ".toList <:+: "ΚΩΔΙΚΟΣΧΡΗΣΤΗ".toList ∧
      (Settings.ofEnvironment [(redactVariable, "ΚΩΔΙΚΟΣ")]).value.countLimit = none ∧
      normalize (Settings.ofEnvironment [(redactVariable, "ΚΩΔΙΚΟΣ")]).value
          [(.text "ΚΩΔΙΚΟΣΧΡΗΣΤΗ", .text "hunter2")] =
        .ok ⟨[("ΚΩΔΙΚΟΣΧΡΗΣΤΗ", .text "hunter2")], []⟩ := by
  have hfragment : IsFragment "ΚΩΔΙΚΟΣ" "ΚΩΔΙΚΟΣ".toList := by decide +kernel
  have hkeys : (Settings.ofEnvironment [(redactVariable, "ΚΩΔΙΚΟΣ")]).value.redactKeys =
      [lower "ΚΩΔΙΚΟΣ"] := (redactKeys_alone hfragment).2
  have hopen : isSensitive (Settings.ofEnvironment [(redactVariable, "ΚΩΔΙΚΟΣ")]).value.redactKeys
      "ΚΩΔΙΚΟΣΧΡΗΣΤΗ" = false := by
    rw [hkeys]
    decide +kernel
  have hwrite := write?_of_open (e := (.text "ΚΩΔΙΚΟΣΧΡΗΣΤΗ", .text "hunter2")) rfl rfl hopen
  refine ⟨hfragment, by decide +kernel, rfl, ?_⟩
  exact (normalize_eq_ok_iff (List.cons_ne_nil _ _)).2
    ⟨_, normalizeAll_eq_ok_iff.2 ⟨_, .cons hwrite .nil, rfl⟩, rfl⟩

end CommandTelemetry.Attribute
