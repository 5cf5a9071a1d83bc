import CommandTelemetry.Proofs.CountLimit

/-!
# Sensitive values tell nothing

A key is sensitive if its text, in lower case, has one of the given fragments in it. What is
recorded under such a key is the mask, cut like any other text. The value is asked a single
question, whether it is there at all, and that before it is reduced, displayed or written in any
way. Keys that become sensitive only as texts, or coincide only as texts, are no exception. A key
that has no text is not sensitive: it ends normalization, whatever it stands for.

So facts that differ in nothing but what they hold under sensitive keys cannot be told apart by what
comes out: not by the attributes, not by the log of those that were dropped, and not by a failure.
Facts under sensitive keys might as well be missing where it comes to whether normalization fails.
-/

namespace CommandTelemetry.Attribute

open Text

/-- The text of a key, in lower case, has one of the fragments in it. -/
def Sensitive (redactKeys : List String) (key : String) : Prop :=
  ∃ part ∈ redactKeys, part.toList <:+: (lower key).toList

theorem occursIn_iff {part s : List Char} : occursIn part s = true ↔ part <:+: s := by
  induction s with
  | nil => rw [occursIn, List.isEmpty_iff, List.infix_nil]
  | cons c rest ih =>
      rw [occursIn, Bool.or_eq_true, List.isPrefixOf_iff_prefix, ih, List.infix_cons_iff]

theorem isSensitive_iff {redactKeys : List String} {key : String} :
    isSensitive redactKeys key = true ↔ Sensitive redactKeys key := by
  simp only [isSensitive, List.any_eq_true, occursIn_iff, Sensitive, lower, String.toList_ofList]

/-- A fact stands under a sensitive key. -/
def isHidden (redactKeys : List String) (e : Value × Value) : Bool :=
  match e.1.display with
  | .ok key => isSensitive redactKeys key
  | .error _ => false

/-- Two facts under one key. They may hold different values only where the key is sensitive, and
even there both or neither of them is absent. -/
structure SameInOpen (redactKeys : List String) (e d : Value × Value) : Prop where
  key : e.1 = d.1
  absent : e.2.isNull = d.2.isNull
  value : ∀ text, e.1.display = .ok text → ¬Sensitive redactKeys text → e.2 = d.2

theorem SameInOpen.write? {settings : Settings} {e d : Value × Value}
    (h : SameInOpen settings.redactKeys e d) : write? settings e = write? settings d := by
  cases hnull : e.2.isNull with
  | true => rw [Attribute.write?, Attribute.write?, ← h.absent, if_pos hnull, if_pos hnull]
  | false =>
      have hnull' : d.2.isNull = false := h.absent.symm.trans hnull
      cases htext : e.1.display with
      | error fault =>
          rw [write?_of_untold hnull htext, write?_of_untold hnull' (h.key ▸ htext)]
      | ok text =>
          by_cases hkey : Sensitive settings.redactKeys text
          · have hsensitive := isSensitive_iff.2 hkey
            rw [write?_of_isSensitive hnull htext hsensitive,
              write?_of_isSensitive hnull' (h.key ▸ htext) hsensitive]
          · rw [Prod.ext h.key (h.value text htext hkey)]

theorem masked_of_sensitive {settings : Settings} {e : Value × Value} {a : String × Value}
    (h : write? settings e = .ok (some a)) (hkey : Sensitive settings.redactKeys a.1) :
    a.2 = .text (cut settings.lengthLimit "[redacted]") := by
  rw [← isSensitive_iff] at hkey
  rcases write?_cases h with ⟨-, hw⟩ | ⟨key, -, -, ⟨-, hw⟩ | ⟨hopen, v, -, hw⟩⟩
  · cases hw
  · cases hw
    rfl
  · cases hw
    exact absurd hkey (by rw [hopen]; exact Bool.false_ne_true)

theorem write?_ok_of_isHidden {settings : Settings} {e : Value × Value}
    (h : isHidden settings.redactKeys e = true) : ∃ w, write? settings e = .ok w := by
  unfold isHidden at h
  split at h
  · next key hkey =>
      cases hnull : e.2.isNull with
      | true => exact ⟨_, by rw [write?, if_pos hnull]⟩
      | false => exact ⟨_, write?_of_isSensitive hnull hkey h⟩
  · cases h

/-- Facts that are alike but for what they hold under sensitive keys have the same outcome, in which
every sensitive key holds the mask; and it is a failure only if it is one without those facts. -/
theorem sensitive_values_tell_nothing {settings : Settings} {xs ys : List (Value × Value)}
    (h : List.Forall₂ (SameInOpen settings.redactKeys) xs ys) :
    normalize settings xs = normalize settings ys ∧
      (∀ out, normalize settings xs = .ok out → ∀ a ∈ out.value,
        Sensitive settings.redactKeys a.1 →
          a.2 = .text (cut settings.lengthLimit "[redacted]")) ∧
      ∀ f, normalize settings xs = .error f ↔
        normalize settings (xs.filter fun e => !isHidden settings.redactKeys e) = .error f := by
  refine ⟨normalize_congr (h.imp fun e d => SameInOpen.write?), fun out hout a ha hkey => ?_,
    fun f => ?_⟩
  · obtain ⟨e, -, hwrite⟩ := (kept_of_normalize hout).1 a ha
    exact masked_of_sensitive hwrite hkey
  · rw [normalize_eq_error_iff, normalize_eq_error_iff]
    refine mapM_eq_error_iff_filter fun e he => write?_ok_of_isHidden ?_
    rwa [Bool.not_eq_false'] at he

/-- Facts of a login, of which one stands under a key that is sensitive as a text only. -/
def loginFacts (secret : Value) : List (Value × Value) :=
  [(.text "tool", .text "git"), (.tuple [.text "Token"], secret), (.text "note", .null)]

/-- A secret that has no normal form at all stays hidden like any other. -/
theorem loginFacts_tell_nothing :
    normalize usualSettings (loginFacts (.mapping [(.int 1, .null), (.text "a", .null)])) =
        normalize usualSettings (loginFacts (.text "hunter2")) ∧
      normalize usualSettings (loginFacts (.text "hunter2")) =
        .ok ⟨[("tool", .text "git"), ("('Token',)", .text "[redacted]")], []⟩ := by
  have hkey : Sensitive usualSettings.redactKeys "('Token',)" := isSensitive_iff.1 rfl
  have hsecret : (Value.tuple [.text "Token"]).display = .ok "('Token',)" := rfl
  have halike : List.Forall₂ (SameInOpen usualSettings.redactKeys)
      (loginFacts (.mapping [(.int 1, .null), (.text "a", .null)]))
      (loginFacts (.text "hunter2")) :=
    .cons ⟨rfl, rfl, fun _ _ _ => rfl⟩
      (.cons ⟨rfl, rfl, fun text htext hopen =>
          absurd (Except.ok.inj (hsecret.symm.trans htext) ▸ hkey) hopen⟩
        (.cons ⟨rfl, rfl, fun _ _ _ => rfl⟩ .nil))
  obtain ⟨hsame, -, -⟩ := sensitive_values_tell_nothing halike
  exact ⟨hsame, rfl⟩

end CommandTelemetry.Attribute
