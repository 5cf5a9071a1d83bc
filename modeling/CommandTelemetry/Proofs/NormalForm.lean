import CommandTelemetry.Proofs.NormalAttributes

/-!
# Normal forms stay as they are

What comes out of normalization is in normal form: a scalar, or a list of scalars of one kind, with
every text cut to the limit. Texts that stand in place of something else are no exception, whether
it was a mapping, a secret or an item of a mixed list.

A value in normal form would be written as it stands, also under a sensitive key, where it is the
mask already. So a second pass with the same settings writes the same attributes, and it has none to
drop because the first pass left no more than the limit allows.
-/

namespace CommandTelemetry.Attribute

open Text

variable {limit : Option Int}

/-! ## The normal form of a value -/

/-- A text keeps to a limit on its length. A limit below zero leaves no character. -/
def Fits (limit : Option Int) (s : String) : Prop :=
  ∀ n, limit = some n → (s.length : Int) ≤ max n 0

/-- A scalar, or a list of one kind, where exit codes count as integers. -/
inductive IsNormal (limit : Option Int) : Value → Prop
  | text {s : String} (h : Fits limit s) : IsNormal limit (.text s)
  | bool (b : Bool) : IsNormal limit (.bool b)
  | int (n : Int) : IsNormal limit (.int n)
  | exit (c : ExitCode) : IsNormal limit (.exit c)
  | float (x : Float) : IsNormal limit (.float x)
  | bools {items : List Value} (h : ∀ v ∈ items, v.isBool = true) : IsNormal limit (.list items)
  | integers {items : List Value} (h : ∀ v ∈ items, v.isInteger = true) :
      IsNormal limit (.list items)
  | floats {items : List Value} (h : ∀ v ∈ items, v.isFloat = true) : IsNormal limit (.list items)
  | texts {items : List Value} (h : ∀ v ∈ items, ∃ s, v = .text s ∧ Fits limit s) :
      IsNormal limit (.list items)

theorem fits_cut (limit : Option Int) (s : String) : Fits limit (cut limit s) := by
  rintro n rfl
  simp only [cut, takeChars, String.length_ofList, List.length_take]
  omega

theorem cut_of_fits {s : String} (h : Fits limit s) : cut limit s = s := by
  cases limit with
  | none => rfl
  | some n =>
      have hlength : s.toList.length ≤ n.toNat := by
        have := h n rfl
        rw [String.length_toList]
        omega
      rw [cut, takeChars, List.take_of_length_le hlength, String.ofList_toList]

theorem IsNormal.isNull {v : Value} (h : IsNormal limit v) : v.isNull = false := by
  cases h <;> rfl

/-! ## Every result is in normal form -/

theorem toFloat?_of_number {v : Value} (hv : (v.isInteger || v.isFloat) = true)
    {o : Option Float} (h : v.toFloat? = .ok o) : ∃ x, o = some x := by
  cases v with
  | float x => exact ⟨x, (Except.ok.inj h).symm⟩
  | int n | exit n =>
      simp only [Value.toFloat?, Value.asInt?] at h
      split at h
      · exact ⟨_, (Except.ok.inj h).symm⟩
      · cases h
  | _ => cases hv

theorem isFloat_of_mem_floats {items out : List Value}
    (hitems : ∀ v ∈ items, (v.isInteger || v.isFloat) = true) (h : floats items = .ok out) :
    ∀ w ∈ out, w.isFloat = true := by
  intro w hw
  obtain ⟨v, hv, hstep⟩ := exists_of_mem_right (mapM_eq_ok_iff.1 h) hw
  cases hx : v.toFloat? with
  | error f => rw [hx] at hstep; cases hstep
  | ok o =>
      obtain ⟨x, rfl⟩ := toFloat?_of_number (hitems v hv) hx
      rw [hx] at hstep
      cases hstep
      rfl

theorem cutTexts_isNormal {texts : List (Except Fault String)} {out : List Value}
    (h : cutTexts limit texts = .ok out) : IsNormal limit (.list out) := by
  obtain ⟨shown, -, rfl⟩ := cutTexts_eq_ok_iff.1 h
  refine .texts fun v hv => ?_
  obtain ⟨s, -, rfl⟩ := List.mem_map.1 hv
  exact ⟨_, rfl, fits_cut limit s⟩

theorem normalizeItems_isNormal {items out : List Value}
    (h : normalizeItems limit items = .ok out) : IsNormal limit (.list out) := by
  unfold normalizeItems at h
  simp only [] at h
  generalize items.filter (!·.isNull) = present at h
  split at h
  · next hbools =>
      obtain rfl := Except.ok.inj h
      exact .bools (List.all_eq_true.1 hbools)
  · split at h
    · next hintegers =>
        obtain rfl := Except.ok.inj h
        exact .integers (List.all_eq_true.1 hintegers)
    · split at h
      · next hnumbers =>
          exact .floats (isFloat_of_mem_floats (List.all_eq_true.1 hnumbers) h)
      · exact cutTexts_isNormal h

theorem normalizeValue_isNormal {v out : Value} (h : normalizeValue limit v = .ok out) :
    IsNormal limit out := by
  have hlist : ∀ items, (normalizeItems limit items).map Value.list = .ok out →
      IsNormal limit out := by
    intro items hitems
    cases hout : normalizeItems limit items with
    | error f => rw [hout] at hitems; cases hitems
    | ok list =>
        rw [hout] at hitems
        cases hitems
        exact normalizeItems_isNormal hout
  have htext : ∀ text : Except Fault String,
      text.map (fun s => Value.text (cut limit s)) = .ok out → IsNormal limit out := by
    intro text htext
    cases text with
    | error f => cases htext
    | ok s =>
        cases htext
        exact .text (fits_cut limit s)
  cases v with
  | list items | tuple items => exact hlist _ h
  | range start stop => exact hlist _ h
  | sequence _ items stop _ =>
      cases stop with
      | some fault => cases h
      | none => exact hlist _ h
  | ring _ items _ _ =>
      cases hout : cutTexts limit items with
      | error f =>
          rw [normalizeValue, hout] at h
          cases h
      | ok list =>
          rw [normalizeValue, hout] at h
          cases h
          exact cutTexts_isNormal hout
  | knot fault _ => cases h
  | mapping _ | view _ _ | foreign _ _ => exact htext _ h
  | null | octets _ | buffer _ =>
      cases h
      exact .text (fits_cut limit _)
  | bool b => cases h; exact .bool b
  | int n => cases h; exact .int n
  | exit c => cases h; exact .exit c
  | float x => cases h; exact .float x
  | text s => cases h; exact .text (fits_cut limit s)

theorem isNormal_of_write? {settings : Settings} {e : Value × Value} {a : String × Value}
    (h : write? settings e = .ok (some a)) : IsNormal settings.lengthLimit a.2 := by
  rcases write?_cases h with ⟨-, hw⟩ | ⟨key, -, -, ⟨-, hw⟩ | ⟨-, v, hv, hw⟩⟩
  · cases hw
  · cases hw
    exact .text (fits_cut _ _)
  · cases hw
    exact normalizeValue_isNormal hv

/-! ## Normal forms are fixed -/

theorem normalizeItems_of_isNormal {items : List Value} (h : IsNormal limit (.list items)) :
    normalizeItems limit items = .ok items := by
  have hpresent : items.filter (!·.isNull) = items := by
    refine filter_not_isNull fun v hv => ?_
    cases h with
    | bools h | integers h | floats h => have := h v hv; cases v <;> first | rfl | cases this
    | texts h => obtain ⟨s, rfl, -⟩ := h v hv; rfl
  unfold normalizeItems
  simp only [hpresent]
  split
  · rfl
  · next hbools =>
      split
      · rfl
      · next hintegers =>
          -- The list has an item, so it is of no kind but its own.
          cases h with
          | bools h => exact absurd (List.all_eq_true.2 h) hbools
          | integers h => exact absurd (List.all_eq_true.2 h) hintegers
          | floats h =>
              have hnumbers : (items.all fun v => v.isInteger || v.isFloat) = true :=
                List.all_eq_true.2 fun v hv => by rw [h v hv, Bool.or_true]
              rw [if_pos hnumbers, floats_of_isFloat h]
          | texts h =>
              have hnumbers : ¬(items.all fun v => v.isInteger || v.isFloat) = true := by
                cases items with
                | nil => exact absurd rfl hbools
                | cons v rest =>
                    obtain ⟨s, rfl, -⟩ := h v List.mem_cons_self
                    exact Bool.false_ne_true
              obtain ⟨shown, rfl⟩ := (Set.range_list_map Value.text).ge fun v hv =>
                (h v hv).imp fun s hs => hs.1.symm
              rw [if_neg hnumbers]
              refine cutTexts_eq_ok_iff.2 ⟨shown, ?_, ?_⟩
              · rw [List.map_map]
                rfl
              · refine List.map_congr_left fun s hs => ?_
                obtain ⟨s', hs', hfits⟩ := h (.text s) (List.mem_map_of_mem hs)
                rw [Value.text.inj hs', cut_of_fits hfits]

theorem normalizeValue_of_isNormal {v : Value} (h : IsNormal limit v) :
    normalizeValue limit v = .ok v := by
  cases v with
  | text s =>
      cases h with
      | text h => rw [normalizeValue, cut_of_fits h]
  | list items =>
      rw [normalizeValue, normalizeItems_of_isNormal h]
      rfl
  | bool _ | int _ | exit _ | float _ => rfl
  | _ => cases h

/-- What was written once is written again as it stands, under its text. -/
theorem write?_of_written {settings : Settings} {e : Value × Value} {a : String × Value}
    (h : write? settings e = .ok (some a)) :
    write? settings (.text a.1, a.2) = .ok (some a) := by
  have hnormal := isNormal_of_write? h
  rcases write?_cases h with ⟨-, hw⟩ | ⟨key, -, -, ⟨hkey, hw⟩ | ⟨hkey, v, -, hw⟩⟩
  · cases hw
  · cases hw
    exact write?_of_isSensitive rfl rfl hkey
  · cases hw
    rw [write?_of_open hnormal.isNull rfl hkey, normalizeValue_of_isNormal hnormal]
    rfl

theorem normalize_facts {settings : Settings} {attrs : Attributes}
    (hkeys : (attrs.map Prod.fst).Nodup)
    (hwritten : ∀ a ∈ attrs, write? settings (.text a.1, a.2) = .ok (some a))
    (hlength : ∀ n, settings.countLimit = some n → (attrs.length : Int) ≤ max n 0) :
    normalize settings (facts attrs) = .ok ⟨attrs, []⟩ := by
  cases attrs with
  | nil => rfl
  | cons a rest =>
      refine normalize_of_length_le (normalizeAll_facts hkeys hwritten) fun n hn => ?_
      have hroom := hlength n hn
      rw [List.length_cons] at hroom ⊢
      omega

/-- A result of normalization is well formed, and normalizing it again under the same settings
changes nothing. -/
theorem normalize_isFixed {settings : Settings} {entries : List (Value × Value)}
    {out : Logged Attributes} (h : normalize settings entries = .ok out) :
    (∀ a ∈ out.value, IsNormal settings.lengthLimit a.2) ∧
      (out.value.map Prod.fst).Nodup ∧
      (∀ n, settings.countLimit = some n → (out.value.length : Int) ≤ max n 0) ∧
      normalize settings (facts out.value) = .ok ⟨out.value, []⟩ := by
  obtain ⟨hwritten, hkeys, hlength⟩ := kept_of_normalize h
  refine ⟨fun a ha => ?_, hkeys, hlength, normalize_facts hkeys (fun a ha => ?_) hlength⟩
  · obtain ⟨e, -, hwrite⟩ := hwritten a ha
    exact isNormal_of_write? hwrite
  · obtain ⟨e, -, hwrite⟩ := hwritten a ha
    exact write?_of_written hwrite

/-- Room for three attributes, and for four characters of a text. -/
def tightSettings : Settings where
  countLimit := some 3
  lengthLimit := some 4
  redactKeys := usualRedactKeys

def releaseFacts : List (Value × Value) :=
  [(.text "flags", .tuple [.text "force", .null, .int 12, .bool true]),
    (.text "api_key", .octets [1, 2]), (.text "notes", .text "none yet"),
    (.text "sizes", .range 0 3)]

def releaseAttributes : Attributes :=
  [("flags", .list [.text "forc", .text "12", .text "True"]), ("api_key", .text "[red"),
    ("notes", .text "none"), ("sizes", .list [.int 0, .int 1, .int 2])]

def releaseKept : Attributes :=
  [("api_key", .text "[red"), ("flags", .list [.text "forc", .text "12", .text "True"]),
    ("notes", .text "none")]

/-- Items of several kinds have become texts, all texts are cut, the secret is masked, and one
attribute is dropped. All that is left stays. -/
theorem releaseKept_isFixed :
    ∃ records, normalize tightSettings releaseFacts = .ok ⟨releaseKept, records⟩ ∧
      normalize tightSettings (facts releaseKept) = .ok ⟨releaseKept, []⟩ := by
  have hne : releaseFacts ≠ [] := List.cons_ne_nil _ _
  have hall : normalizeAll tightSettings releaseFacts = .ok releaseAttributes := rfl
  have hsorted : releaseAttributes.mergeSort Value.textKeyLE =
      releaseKept ++ [("sizes", .list [.int 0, .int 1, .int 2])] := by
    simp [releaseAttributes, releaseKept, List.mergeSort, List.MergeSort.Internal.splitInTwo,
      Value.textKeyLE]
  have hkept : select (some 3) releaseAttributes =
      ⟨releaseKept, [⟨.debug, logger, droppedMessage 3 ["sizes"]⟩]⟩ := by
    rw [select_of_lt (by decide), hsorted]
    rfl
  have hrelease := (normalize_eq_ok_iff hne).2 ⟨releaseAttributes, hall, hkept.symm⟩
  obtain ⟨-, -, -, hfixed⟩ := normalize_isFixed hrelease
  exact ⟨_, hrelease, hfixed⟩

end CommandTelemetry.Attribute
