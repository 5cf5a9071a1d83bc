import CommandTelemetry.Proofs.JsonGrammar

/-!
# What is written is JSON

A document that is written on one line, with spaces or without any, stands for itself and for
nothing else, provided that its numbers are numbers of JSON. So nothing of a document is lost when
it is written, whatever characters its texts and keys are made of.

The writer asks three things of a style: its two separators are those of the grammar, up to blanks,
and its escape of a character is one of the ways to spell it. The rest is an induction on the
documents inside a document.
-/

namespace CommandTelemetry.Json

open Grammar Text

/-! ## Escapes -/

theorem hexValue?_hexDigit : ∀ n < 16, hexValue? (hexDigit n) = some n := by decide

theorem unit?_hexDigits {n : Nat} (h : n < 0x10000) : unit? (hexDigits 4 n) = some n := by
  have hdigit : ∀ k, hexValue? (hexDigit (k % 16)) = some (k % 16) := fun k =>
    hexValue?_hexDigit _ (Nat.mod_lt _ (by decide))
  simp only [hexDigits, List.nil_append, List.cons_append, unit?, hdigit, Option.bind_eq_bind,
    Option.bind_some, Option.some.injEq]
  omega

theorem character_unitEscape {c : Char} (h : c.toNat < 0x10000) :
    Character (unitEscape c.toNat) c := .unit (unit?_hexDigits h)

theorem character_letterEscape {c : Char} {e : List Char} (h : letterEscape? c = some e) :
    Character e c := by
  unfold letterEscape? at h
  repeat' split at h
  all_goals first
    | contradiction
    | (cases h; subst c; exact .letter rfl)

theorem ne_of_letterEscape {c : Char} (h : letterEscape? c = none) : c ≠ '"' ∧ c ≠ '\\' := by
  refine ⟨?_, ?_⟩ <;> rintro rfl <;> cases h

theorem character_escapeControl (c : Char) : Character (escapeControl c) c := by
  unfold escapeControl
  split
  · next e he => exact character_letterEscape he
  · next he =>
      obtain ⟨hquote, hslash⟩ := ne_of_letterEscape he
      split
      · exact character_unitEscape (by omega)
      · exact .plain (by omega) hquote hslash

theorem characters_flatMap {escape : Char → List Char} (h : ∀ c, Character (escape c) c)
    (cs : List Char) : Characters (cs.flatMap escape) cs := by
  induction cs with
  | nil => exact .nil
  | cons c cs ih =>
      rw [List.flatMap_cons]
      exact .cons (h c) ih

theorem text_quoteText {escape : Char → List Char} (h : ∀ c, Character (escape c) c)
    (s : String) : Grammar.Text (quoteText escape s).toList s := by
  rw [quoteText, String.toList_ofList]
  exact .mk (characters_flatMap h s.toList)

/-! ## Numbers -/

theorem whole_toDigits (n : Nat) : Whole (Nat.toDigits 10 n) := by
  refine ⟨⟨Nat.toDigits_ne_nil, fun c hc => ?_⟩, fun hzero => ?_⟩
  · exact Nat.isDigit_of_mem_toDigits (by decide) (by decide) hc
  · induction n using Nat.strongRecOn with
    | ind n ih =>
        by_cases hn : n < 10
        · rw [Nat.toDigits_of_lt_base hn] at hzero ⊢
          rw [Option.some.inj hzero]
        · -- a zero in front would be all that the number has above its last digit
          rw [Nat.toDigits_of_base_le (by decide) (by omega), List.head?_append,
            List.head?_eq_some_head Nat.toDigits_ne_nil, Option.some_or,
            ← List.head?_eq_some_head] at hzero
          have hfront := ih (n / 10) (by omega) hzero
          have hvalue : Nat.ofDigitChars 10 (Nat.toDigits 10 (n / 10)) 0 = n / 10 :=
            Nat.ofDigitChars_ten_toDigits
          rw [hfront] at hvalue
          have : n / 10 = 0 := hvalue.symm
          omega

theorem number_toString (n : Int) : Number (toString n).toList := by
  have hnat : ∀ (sign : List Char) (k : Nat), sign = [] ∨ sign = ['-'] →
      Number (sign ++ k.repr.toList) := by
    intro sign k hsign
    rw [Nat.toList_repr]
    simpa using Number.mk hsign (whole_toDigits k) .absent .absent
  cases n with
  | ofNat k =>
      have hwhole := hnat [] k (.inl rfl)
      rwa [List.nil_append] at hwhole
  | negSucc k =>
      have hminus : "-".toList = ['-'] := rfl
      have hnegative := hnat ['-'] (k + 1) (.inr rfl)
      rwa [← hminus, ← String.toList_append] at hnegative

/-! ## Documents -/

/-- All numbers in a document are numbers of JSON. -/
inductive Document.Numeric : Document → Prop
  | mk {d : Document} : (∀ w, d = .number w → Number w.toList) → (∀ e ∈ d.parts, Numeric e) →
      Numeric d

theorem blank_nil : Blank [] := fun _ hc => (nomatch hc)

theorem blank_append {a b : List Char} (ha : Blank a) (hb : Blank b) : Blank (a ++ b) :=
  fun c hc => (List.mem_append.1 hc).elim (ha c) (hb c)

/-- A style that writes JSON. -/
structure Style.Faithful (style : Style) : Prop where
  items : ∃ b, Blank b ∧ style.itemSeparator.toList = ',' :: b
  key : ∃ b, Blank b ∧ style.keySeparator.toList = ':' :: b
  escape : ∀ c, Character (style.escape c) c

theorem faithful_dense : dense.Faithful where
  items := ⟨[], blank_nil, rfl⟩
  key := ⟨[], blank_nil, rfl⟩
  escape := character_escapeControl

/-- Blanks may stand in front of an item. -/
def Padded {α : Type} (Item : List Char → α → Prop) : Prop :=
  ∀ ⦃b s : List Char⦄ ⦃x : α⦄, Blank b → Item s x → Item (b ++ s) x

theorem padded_element : Padded Element := by
  intro b s d hb h
  obtain ⟨ha, hs, hc⟩ := h
  rw [← List.append_assoc]
  exact .mk (blank_append hb ha) hs hc

theorem padded_member : Padded Member := by
  intro b s m hb h
  obtain ⟨ha, hk, hc, hs⟩ := h
  rw [← List.append_assoc]
  exact .mk (blank_append hb ha) hk hc hs

section Items

variable {α : Type} {Item : List Char → α → Prop} {separator : String} {write : α → String}

theorem Padded.separated (hpadded : Padded Item) : Padded (Separated Item) := by
  intro b s xs hb h
  cases h with
  | last hs => exact .last (hpadded hb hs)
  | more hs ht =>
      rw [← List.append_assoc]
      exact .more (hpadded hb hs) ht

theorem separated_intercalate (hpadded : Padded Item)
    (hsep : ∃ b, Blank b ∧ separator.toList = ',' :: b) {x : α} {xs : List α}
    (h : ∀ y ∈ x :: xs, Item (write y).toList y) :
    Separated Item (separator.intercalate ((x :: xs).map write)).toList (x :: xs) := by
  obtain ⟨b, hb, hsep⟩ := hsep
  rw [String.toList_intercalate, hsep]
  induction xs generalizing x with
  | nil =>
      rw [List.map_singleton, List.map_singleton, List.intercalate_singleton]
      exact .last (h x (List.mem_cons_self ..))
  | cons y ys ih =>
      have hrest := ih fun z hz => h z (List.mem_cons_of_mem _ hz)
      simp only [List.map_cons] at hrest ⊢
      rw [List.intercalate_cons_cons, List.append_assoc, List.cons_append]
      exact .more (h x (List.mem_cons_self ..)) (hpadded.separated hb hrest)

theorem enclosed_intercalate (hpadded : Padded Item)
    (hsep : ∃ b, Blank b ∧ separator.toList = ',' :: b) {xs : List α}
    (h : ∀ x ∈ xs, Item (write x).toList x) (opening closing : Char) :
    Enclosed opening closing Item
      (opening :: ((separator.intercalate (xs.map write)).toList ++ [closing])) xs := by
  cases xs with
  | nil => exact .none blank_nil
  | cons x xs => exact .some (separated_intercalate hpadded hsep h)

end Items

namespace Document

theorem writeItems_eq_map (style : Style) (items : List Document) :
    writeItems style items = items.map (write style) := by
  induction items with
  | nil => rfl
  | cons d ds ih => rw [writeItems, ih, List.map_cons]

def writeMember (style : Style) (m : String × Document) : String :=
  quoteText style.escape m.1 ++ style.keySeparator ++ write style m.2

theorem writeMembers_eq_map (style : Style) (members : List (String × Document)) :
    writeMembers style members = members.map (writeMember style) := by
  induction members with
  | nil => rfl
  | cons m ms ih => rw [writeMembers, ih, List.map_cons, writeMember]

end Document

variable {style : Style}

theorem element_of_value {s : List Char} {d : Document} (h : Value s d) : Element s d := by
  have helement := Element.mk blank_nil h blank_nil
  rwa [List.nil_append, List.append_nil] at helement

theorem member_writeMember (hstyle : style.Faithful) {m : String × Document}
    (h : Value (m.2.write style).toList m.2) : Member (Document.writeMember style m).toList m := by
  obtain ⟨b, hb, hkey⟩ := hstyle.key
  have hmember := Member.mk blank_nil (text_quoteText hstyle.escape m.1) blank_nil
    (padded_element hb (element_of_value h))
  rw [List.nil_append, List.nil_append] at hmember
  rw [Document.writeMember, String.toList_append, String.toList_append, hkey, List.append_assoc,
    List.cons_append]
  exact hmember

theorem value_write (hstyle : style.Faithful) {d : Document} (h : d.Numeric) :
    Value (d.write style).toList d := by
  induction h with
  | @mk d hnumber _ ih =>
      cases d with
      | null =>
          rw [Document.write]
          exact .null
      | bool b =>
          rw [Document.write]
          cases b with
          | true => exact .true
          | false => exact .false
      | number w => exact .number (hnumber w rfl)
      | text s => exact .text (text_quoteText hstyle.escape s)
      | array items =>
          have hitems : ∀ e ∈ items, Element (e.write style).toList e := fun e he =>
            element_of_value (ih e he)
          have henclosed := enclosed_intercalate padded_element hstyle.items hitems '[' ']'
          rw [Document.write, Document.writeItems_eq_map, String.toList_append,
            String.toList_append]
          exact .array henclosed
      | object members =>
          have hmembers : ∀ m ∈ members, Member (Document.writeMember style m).toList m :=
            fun m hm => member_writeMember hstyle (ih m.2 (List.mem_map_of_mem hm))
          have henclosed := enclosed_intercalate padded_member hstyle.items hmembers '\x7b' '\x7d'
          rw [Document.write, Document.writeMembers_eq_map, String.toList_append,
            String.toList_append]
          exact .object henclosed

/-- A document that is written stands for itself and for no other one. -/
theorem denotes_write_iff (hstyle : style.Faithful) {d e : Document} (h : d.Numeric) :
    Denotes (d.write style) e ↔ e = d := by
  have hself : Denotes (d.write style) d := element_of_value (value_write hstyle h)
  constructor
  · intro he
    exact he.unique hself
  · rintro rfl
    exact hself

end CommandTelemetry.Json
