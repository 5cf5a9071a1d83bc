import Mathlib.Data.Set.List
import CommandTelemetry.Proofs.CountLimit

/-!
# Which facts have a normal form

Reducing facts to what a span takes can fail: a mapping may have keys without an order, an integer
beside floating-point numbers may be too large to become one, and some values have no text.
`Value.IsRecordable` goes through the kinds of values and says which of them can be reduced, and
`Recordable` says it of a fact; a list of facts has a normal form exactly if all of its facts can be
recorded, whatever the limits.

So it does not fail on the values that are of a span's kinds already, under keys that have texts.
Facts that are plain, under keys that are not sensitive and all different, come out as they went in.
-/

namespace CommandTelemetry

namespace Value

def isText : Value → Bool
  | text _ => true
  | _ => false

/-- A value of the kinds that spans take: a scalar, or a sequence of scalars of one kind. Exit codes
count as integers, also in a list, which no span keeps in the end. -/
def isSpanValue : Value → Bool
  | text _ | bool _ | int _ | exit _ | float _ | range .. => true
  | list items | tuple items =>
    items.all isText || items.all isBool || items.all isInteger || items.all isFloat
  | _ => false

/-- A value that is its own normal form under every limit but one on texts. -/
def isPlain : Value → Bool
  | text _ | bool _ | int _ | exit _ | float _ => true
  | _ => false

/-- The items that count: absent ones are left out. -/
def present (items : List Value) : List Value := items.filter (!·.isNull)

/-- Numbers, not all of which are integers. -/
def mixesNumbers (items : List Value) : Bool :=
  items.all (fun v => v.isInteger || v.isFloat) && !items.all (·.isInteger)

/-- Neither truth values alone nor numbers alone. -/
def mixesKinds (items : List Value) : Bool :=
  !items.all (·.isBool) && !items.all (fun v => v.isInteger || v.isFloat)

/-- Items that can be made into a list of one kind. -/
structure CanBeListed (items : List Value) : Prop where
  converted : mixesNumbers (present items) = true →
    ∀ v ∈ present items, ∃ x, v.toFloat? = .ok x
  shown : mixesKinds (present items) = true → ∀ v ∈ present items, ∃ s, v.display = .ok s

/-- The value can be reduced to what a span takes. -/
def IsRecordable : Value → Prop
  | list items | tuple items => CanBeListed items
  | sequence _ items stop _ => stop = none ∧ CanBeListed items
  | ring _ items _ _ => ∀ t ∈ items, ∃ s, t = .ok s
  | mapping entries => ∃ s, (mapping entries).canonicalText = .ok s
  | knot _ _ => False
  | foreign _ label | view _ label => ∃ s, label = .ok s
  | _ => True

theorem isInteger_of_mem_rangeItems {start stop : Int} {v : Value}
    (h : v ∈ rangeItems start stop) : v.isInteger = true := by
  obtain ⟨i, -, rfl⟩ := List.mem_map.1 h
  rfl

theorem mixesNumbers_of_all_isBool {items : List Value} (h : items.all (·.isBool) = true) :
    mixesNumbers items = false := by
  cases items with
  | nil => rfl
  | cons v rest =>
      have hv : v.isBool = true := List.all_eq_true.1 h v List.mem_cons_self
      cases v with
      | bool b => rfl
      | _ => cases hv

theorem all_isNumber_of_all_isInteger {items : List Value} (h : items.all (·.isInteger) = true) :
    (items.all fun v => v.isInteger || v.isFloat) = true :=
  List.all_eq_true.2 fun v hv => by rw [List.all_eq_true.1 h v hv, Bool.true_or]

/-- In a list of one kind there is nothing to convert but floating-point numbers, and nothing to
show but texts. -/
theorem canBeListed_of_one_kind {items : List Value}
    (h : (items.all isText || items.all isBool || items.all isInteger ||
      items.all isFloat) = true) : CanBeListed items := by
  have hall : ∀ {p : Value → Bool}, items.all p = true → ∀ v ∈ present items, p v = true :=
    fun h v hv => List.all_eq_true.1 h v (List.mem_of_mem_filter hv)
  simp only [Bool.or_eq_true] at h
  constructor
  · intro hmixes v hv
    rw [mixesNumbers, Bool.and_eq_true, Bool.not_eq_true'] at hmixes
    have hnumber := List.all_eq_true.1 hmixes.1 v hv
    rcases h with ((h | h) | h) | h
    · have htext := hall h v hv
      cases v <;> simp [isText, isInteger, isFloat] at htext hnumber
    · have hbool := hall h v hv
      cases v <;> simp [isBool, isInteger, isFloat] at hbool hnumber
    · exact absurd (hmixes.2.symm.trans (List.all_eq_true.2 (hall h))) Bool.false_ne_true
    · have hfloat := hall h v hv
      cases v <;> first | exact ⟨_, rfl⟩ | cases hfloat
  · intro hmixes v hv
    rw [mixesKinds, Bool.and_eq_true, Bool.not_eq_true', Bool.not_eq_true'] at hmixes
    have hnumbers : ∀ {p : Value → Bool}, (∀ v, p v = true → (v.isInteger || v.isFloat) = true) →
        ¬items.all p = true := fun hp h => Bool.false_ne_true (hmixes.2.symm.trans
      (List.all_eq_true.2 fun w hw => hp w (hall h w hw)))
    rcases h with ((h | h) | h) | h
    · have htext := hall h v hv
      cases v <;> first | exact ⟨_, rfl⟩ | cases htext
    · exact absurd (hmixes.1.symm.trans (List.all_eq_true.2 (hall h))) Bool.false_ne_true
    · exact absurd h (hnumbers fun w hw => by rw [hw, Bool.true_or])
    · exact absurd h (hnumbers fun w hw => by rw [hw, Bool.or_true])

theorem canBeListed_rangeItems (start stop : Int) : CanBeListed (rangeItems start stop) := by
  have hints : (rangeItems start stop).all isInteger = true :=
    List.all_eq_true.2 fun v hv => isInteger_of_mem_rangeItems hv
  exact canBeListed_of_one_kind (by rw [hints]; simp)

theorem isRecordable_of_isSpanValue {v : Value} (h : v.isSpanValue = true) : v.IsRecordable := by
  cases v with
  | list items | tuple items => exact canBeListed_of_one_kind h
  | text _ | bool _ | int _ | exit _ | float _ | range _ _ => trivial
  | _ => cases h

end Value

namespace Attribute

/-- The fact can be recorded. An absent value is never looked at, and neither is one under a
sensitive key, but every key of a value that is there has to have a text. -/
def Recordable (settings : Settings) (e : Value × Value) : Prop :=
  e.2.isNull = true ∨ ∃ key, e.1.display = .ok key ∧
    (isSensitive settings.redactKeys key = true ∨ e.2.IsRecordable)

/-- A fact with a name, whose value is of the kinds that spans take. -/
structure IsSpanFact (e : Value × Value) : Prop where
  named : ∃ key, e.1.display = .ok key
  value : e.2.isSpanValue = true

theorem IsSpanFact.recordable (settings : Settings) {e : Value × Value} (h : IsSpanFact e) :
    Recordable settings e := by
  obtain ⟨key, hkey⟩ := h.named
  exact .inr ⟨key, hkey, .inr (Value.isRecordable_of_isSpanValue h.value)⟩

/-! ## Lists of texts -/

section Texts

variable {limit : Option Int} {texts : List (Except Fault String)} {out : List Value}

theorem cutTexts_eq_ok_iff :
    cutTexts limit texts = .ok out ↔
      ∃ shown : List String, texts = shown.map .ok ∧
        out = shown.map fun s => .text (cut limit s) := by
  induction texts generalizing out with
  | nil =>
      constructor
      · intro h
        cases h
        exact ⟨[], rfl, rfl⟩
      · rintro ⟨shown, hshown, rfl⟩
        rw [List.map_eq_nil_iff.1 hshown.symm]
        rfl
  | cons t ts ih =>
      cases t with
      | error fault =>
          refine iff_of_false (fun h => by cases h) ?_
          rintro ⟨shown, hshown, -⟩
          obtain ⟨_, _, -, h, -⟩ := List.map_eq_cons_iff.1 hshown.symm
          cases h
      | ok s =>
          constructor
          · intro h
            cases hrest : cutTexts limit ts with
            | error fault =>
                simp only [cutTexts, hrest] at h
                cases h
            | ok rest =>
                simp only [cutTexts, hrest] at h
                cases h
                obtain ⟨shown, rfl, rfl⟩ := ih.1 hrest
                exact ⟨s :: shown, rfl, rfl⟩
          · rintro ⟨shown, hshown, rfl⟩
            obtain ⟨s', rest, rfl, h, hrest⟩ := List.map_eq_cons_iff.1 hshown.symm
            cases h
            have hcut := ih.2 ⟨rest, hrest.symm, rfl⟩
            simp only [cutTexts, hcut]
            rfl

theorem exists_cutTexts_iff :
    (∃ out, cutTexts limit texts = .ok out) ↔ ∀ t ∈ texts, ∃ s, t = .ok s := by
  simp only [cutTexts_eq_ok_iff]
  constructor
  · rintro ⟨_, shown, rfl, -⟩ t ht
    obtain ⟨s, -, rfl⟩ := List.mem_map.1 ht
    exact ⟨s, rfl⟩
  · intro h
    obtain ⟨shown, rfl⟩ := (Set.range_list_map Except.ok).ge fun t ht =>
      (h t ht).imp fun s hs => hs.symm
    exact ⟨_, shown, rfl, rfl⟩

end Texts

/-! ## Lists and values -/

theorem map_ok_iff {α β : Type} {x : Except Fault α} (g : α → β) :
    (∃ b, x.map g = .ok b) ↔ ∃ a, x = .ok a := by
  cases x with
  | error f => exact ⟨fun ⟨_, h⟩ => (by cases h), fun ⟨_, h⟩ => (by cases h)⟩
  | ok a => exact ⟨fun _ => ⟨a, rfl⟩, fun _ => ⟨g a, rfl⟩⟩

/-- Every step of turning numbers into floating-point numbers succeeds where the conversion does. -/
theorem floats_ok_iff {items : List Value} :
    (∃ out, floats items = .ok out) ↔ ∀ v ∈ items, ∃ x, v.toFloat? = .ok x := by
  rw [floats, exists_mapM_eq_ok_iff]
  refine forall₂_congr fun v _ => ?_
  cases v.toFloat? with
  | error f => exact ⟨fun ⟨_, h⟩ => (by cases h), fun ⟨_, h⟩ => (by cases h)⟩
  | ok x =>
      refine ⟨fun _ => ⟨x, rfl⟩, fun _ => ?_⟩
      cases x with
      | none => exact ⟨v, rfl⟩
      | some x => exact ⟨.float x, rfl⟩

theorem normalizeItems_ok_iff {limit : Option Int} {items : List Value} :
    (∃ out, normalizeItems limit items = .ok out) ↔ Value.CanBeListed items := by
  unfold normalizeItems
  rw [← Value.present]
  simp only []
  -- Items of one kind are kept. Numbers of two kinds are converted, and all else is displayed.
  by_cases hbool : (Value.present items).all (·.isBool) = true
  · rw [if_pos hbool]
    refine ⟨fun _ => ⟨fun h => ?_, fun h => ?_⟩, fun _ => ⟨_, rfl⟩⟩
    · rw [Value.mixesNumbers_of_all_isBool hbool] at h
      exact absurd h Bool.false_ne_true
    · rw [Value.mixesKinds, hbool] at h
      exact absurd h Bool.false_ne_true
  · rw [if_neg hbool]
    by_cases hnumber : ((Value.present items).all fun v => v.isInteger || v.isFloat) = true
    · have hkinds : Value.mixesKinds (Value.present items) = false := by
        rw [Value.mixesKinds, hnumber, Bool.not_true, Bool.and_false]
      by_cases hint : (Value.present items).all (·.isInteger) = true
      · rw [if_pos hint]
        refine ⟨fun _ => ⟨fun h => ?_, fun h => absurd (hkinds.symm.trans h) Bool.false_ne_true⟩,
          fun _ => ⟨_, rfl⟩⟩
        rw [Value.mixesNumbers, hint, Bool.not_true, Bool.and_false] at h
        exact absurd h Bool.false_ne_true
      · have hnumbers : Value.mixesNumbers (Value.present items) = true := by
          rw [Value.mixesNumbers, hnumber, Bool.eq_false_iff.2 hint]
          rfl
        rw [if_neg hint, if_pos hnumber, floats_ok_iff]
        exact ⟨fun h => ⟨fun _ => h, fun h => absurd (hkinds.symm.trans h) Bool.false_ne_true⟩,
          fun h => h.converted hnumbers⟩
    · have hint : ¬(Value.present items).all (·.isInteger) = true := fun h =>
        hnumber (Value.all_isNumber_of_all_isInteger h)
      have hkinds : Value.mixesKinds (Value.present items) = true := by
        rw [Value.mixesKinds, Bool.eq_false_iff.2 hbool, Bool.eq_false_iff.2 hnumber]
        rfl
      rw [if_neg hint, if_neg hnumber, exists_cutTexts_iff, List.forall_mem_map]
      refine ⟨fun h => ⟨fun hmixes => ?_, fun _ => h⟩, fun h => h.shown hkinds⟩
      rw [Value.mixesNumbers, Bool.eq_false_iff.2 hnumber] at hmixes
      exact absurd hmixes Bool.false_ne_true

theorem normalizeValue_ok_iff (limit : Option Int) {v : Value} :
    (∃ out, normalizeValue limit v = .ok out) ↔ v.IsRecordable := by
  cases v with
  | list items | tuple items => exact (map_ok_iff Value.list).trans normalizeItems_ok_iff
  | sequence type items stop label =>
      cases stop with
      | some fault => exact ⟨fun ⟨_, h⟩ => (by cases h), fun h => (by cases h.1)⟩
      | none =>
          exact ((map_ok_iff Value.list).trans normalizeItems_ok_iff).trans
            ⟨fun h => ⟨rfl, h⟩, fun h => h.2⟩
  | ring type items fault label => exact (map_ok_iff Value.list).trans exists_cutTexts_iff
  | mapping entries => exact map_ok_iff _
  | view type label =>
      exact (map_ok_iff _).trans ((map_ok_iff _).trans (map_ok_iff Json.Document.text))
  | foreign type label => exact map_ok_iff _
  | knot fault label => exact ⟨fun ⟨_, h⟩ => (by cases h), False.elim⟩
  | range start stop =>
      refine ⟨fun _ => trivial, fun _ => (map_ok_iff Value.list).2 (normalizeItems_ok_iff.2 ?_)⟩
      exact Value.canBeListed_rangeItems start stop
  | null | bool _ | int _ | exit _ | float _ | text _ | octets _ | buffer _ =>
      exact ⟨fun _ => trivial, fun _ => ⟨_, rfl⟩⟩

theorem floats_of_isFloat {items : List Value} (h : ∀ v ∈ items, v.isFloat = true) :
    floats items = .ok items := by
  induction items with
  | nil => rfl
  | cons v rest ih =>
      have hrest : floats rest = .ok rest := ih fun w hw => h w (List.mem_cons_of_mem _ hw)
      cases v with
      | float x =>
          unfold floats at hrest ⊢
          rw [List.mapM_cons, hrest]
          rfl
      | _ => exact absurd (h _ List.mem_cons_self) (by simp [Value.isFloat])

theorem filter_not_isNull {items : List Value} (h : ∀ v ∈ items, v.isNull = false) :
    items.filter (!·.isNull) = items :=
  List.filter_eq_self.2 fun v hv => by rw [h v hv]; rfl

theorem normalizeValue_of_isPlain {v : Value} (h : v.isPlain = true) :
    normalizeValue none v = .ok v := by
  cases v <;> first | rfl | cases h

/-! ## Entries -/

theorem write?_ok_iff (settings : Settings) {e : Value × Value} :
    (∃ w, write? settings e = .ok w) ↔ Recordable settings e := by
  unfold Recordable
  cases hnull : e.2.isNull with
  | true => exact ⟨fun _ => .inl rfl, fun _ => ⟨none, by rw [write?, if_pos hnull]⟩⟩
  | false =>
      cases hkey : e.1.display with
      | error fault =>
          rw [write?_of_untold hnull hkey]
          constructor
          · rintro ⟨_, h⟩
            cases h
          · rintro (h | ⟨key, h, -⟩) <;> cases h
      | ok key =>
          cases hsensitive : isSensitive settings.redactKeys key with
          | true =>
              exact ⟨fun _ => .inr ⟨key, rfl, .inl hsensitive⟩,
                fun _ => ⟨_, write?_of_isSensitive hnull hkey hsensitive⟩⟩
          | false =>
              rw [write?_of_open hnull hkey hsensitive, map_ok_iff, normalizeValue_ok_iff]
              refine ⟨fun h => .inr ⟨key, rfl, .inr h⟩, ?_⟩
              rintro (h | ⟨key', h, hsensitive' | h'⟩)
              · cases h
              · obtain rfl := Except.ok.inj h
                exact absurd (hsensitive.symm.trans hsensitive') Bool.false_ne_true
              · exact h'

theorem normalize_ok_iff {settings : Settings} {entries : List (Value × Value)} :
    (∃ used, normalize settings entries = .ok used) ↔ ∀ e ∈ entries, Recordable settings e := by
  rw [exists_normalize_iff]
  exact forall₂_congr fun e _ => write?_ok_iff settings

/-- Facts of a span's kinds have normal forms. -/
theorem normalize_ok (settings : Settings) {entries : List (Value × Value)}
    (h : ∀ e ∈ entries, IsSpanFact e) : ∃ out, normalize settings entries = .ok out :=
  normalize_ok_iff.2 fun e he => (h e he).recordable settings

theorem lookup_of_mem {attrs : Attributes} {k : String} {v : Value}
    (h : (attrs.map Prod.fst).Nodup) (hmem : (k, v) ∈ attrs) : attrs.lookup k = some v := by
  induction attrs with
  | nil => cases hmem
  | cons e rest ih =>
      obtain ⟨hfresh, hrest⟩ := List.nodup_cons.1 h
      rcases List.mem_cons.1 hmem with rfl | hmem
      · exact List.lookup_cons_self
      · have hne : (k == e.1) = false :=
          beq_false_of_ne fun heq => hfresh (heq ▸ List.mem_map_of_mem hmem)
        rw [List.lookup_cons, hne]
        exact ih hrest hmem

/-- Plain facts under keys of their own that are not sensitive are their normal forms. -/
theorem normalizeAll_of_isPlain {settings : Settings} {attrs : Attributes}
    (hlimit : settings.lengthLimit = none) (hkeys : (attrs.map Prod.fst).Nodup)
    (hplain : ∀ a ∈ attrs, a.2.isPlain = true)
    (hopen : ∀ a ∈ attrs, isSensitive settings.redactKeys a.1 = false) :
    normalizeAll settings (attrs.map fun a => (.text a.1, a.2)) = .ok attrs := by
  refine normalizeAll_facts hkeys fun a ha => ?_
  have hnull : a.2.isNull = false := by
    have := hplain a ha
    cases hv : a.2 <;> rw [hv] at this <;> first | rfl | cases this
  have hvalue : normalizeValue settings.lengthLimit a.2 = .ok a.2 := by
    rw [hlimit, normalizeValue_of_isPlain (hplain a ha)]
  simp only [write?, hnull, Value.display, hopen a ha, hvalue]
  rfl

end Attribute

end CommandTelemetry
