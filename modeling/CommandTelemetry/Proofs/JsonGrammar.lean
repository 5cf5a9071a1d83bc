import CommandTelemetry.Json.Document

/-!
# The grammar of JSON

Which texts stand for a document, with one relation for each rule of the grammar. The grammar knows
nothing of how documents are written here: it has all the blanks, escapes and forms of numbers that
JSON allows. A number stands for itself. An escape stands for a character; half of a surrogate pair
alone does not, so no document holds one.

A text stands for one document at most. The proof compares two readings of the same characters,
each followed by some rest. If what follows a reading cannot go on with it, both end at the same
place, and this is handed down from each rule to its parts. Which rule a value was read by is told
by its first character.
-/

namespace CommandTelemetry.Json

/-- The documents directly inside a document. -/
def Document.parts : Document → List Document
  | .array items => items
  | .object members => members.map Prod.snd
  | _ => []

theorem Document.sizeOf_lt_of_mem_parts {d e : Document} (h : e ∈ d.parts) :
    sizeOf e < sizeOf d := by
  cases d with
  | array items =>
      have hitem : sizeOf e < sizeOf items := List.sizeOf_lt_of_mem h
      rw [Document.array.sizeOf_spec]
      omega
  | object members =>
      obtain ⟨⟨key, value⟩, hm, rfl⟩ := List.mem_map.1 h
      have hmember := List.sizeOf_lt_of_mem hm
      rw [Prod.mk.sizeOf_spec] at hmember
      rw [Document.object.sizeOf_spec]
      show sizeOf value < _
      omega
  | null | bool _ | number _ | text _ => cases h

/-! ## The rules -/

namespace Grammar

def isBlank (c : Char) : Bool := c == ' ' || c == '\t' || c == '\n' || c == '\r'

def Blank (s : List Char) : Prop := ∀ c ∈ s, isBlank c = true

def Digits (s : List Char) : Prop := s ≠ [] ∧ ∀ c ∈ s, c.isDigit = true

/-- Digits without a needless zero in front. -/
def Whole (s : List Char) : Prop := Digits s ∧ (s.head? = some '0' → s = ['0'])

inductive Fraction : List Char → Prop
  | absent : Fraction []
  | present {s : List Char} : Digits s → Fraction ('.' :: s)

inductive Exponent : List Char → Prop
  | absent : Exponent []
  | present {e : Char} {sign s : List Char} : e = 'e' ∨ e = 'E' →
      sign = [] ∨ sign = ['+'] ∨ sign = ['-'] → Digits s → Exponent (e :: (sign ++ s))

inductive Number : List Char → Prop
  | mk {sign whole fraction exponent : List Char} : sign = [] ∨ sign = ['-'] → Whole whole →
      Fraction fraction → Exponent exponent → Number (sign ++ (whole ++ (fraction ++ exponent)))

def hexValue? (c : Char) : Option Nat :=
  if '0' ≤ c ∧ c ≤ '9' then some (c.toNat - 0x30)
  else if 'a' ≤ c ∧ c ≤ 'f' then some (c.toNat - 0x57)
  else if 'A' ≤ c ∧ c ≤ 'F' then some (c.toNat - 0x37)
  else none

/-- The number that four hexadecimal digits stand for. -/
def unit? : List Char → Option Nat
  | [a, b, c, d] => do
      let a ← hexValue? a
      let b ← hexValue? b
      let c ← hexValue? c
      let d ← hexValue? d
      some (((a * 16 + b) * 16 + c) * 16 + d)
  | _ => none

/-- What a letter stands for behind a backslash. -/
def letter? (c : Char) : Option Char :=
  if c = '"' then some '"'
  else if c = '\\' then some '\\'
  else if c = '/' then some '/'
  else if c = 'b' then some '\x08'
  else if c = 'f' then some '\x0c'
  else if c = 'n' then some '\n'
  else if c = 'r' then some '\r'
  else if c = 't' then some '\t'
  else none

/-- How a character is spelled inside a text. -/
inductive Character : List Char → Char → Prop
  | plain {c : Char} : 0x20 ≤ c.toNat → c ≠ '"' → c ≠ '\\' → Character [c] c
  | letter {x c : Char} : letter? x = some c → Character ['\\', x] c
  | unit {u : List Char} {c : Char} : unit? u = some c.toNat → Character ('\\' :: 'u' :: u) c
  | pair {u v : List Char} {n k : Nat} {c : Char} : unit? u = some n → unit? v = some k →
      0xD800 ≤ n → n < 0xDC00 → 0xDC00 ≤ k → k < 0xE000 →
      c.toNat = 0x10000 + (n - 0xD800) * 0x400 + (k - 0xDC00) →
      Character ('\\' :: 'u' :: (u ++ '\\' :: 'u' :: v)) c

inductive Characters : List Char → List Char → Prop
  | nil : Characters [] []
  | cons {s t cs : List Char} {c : Char} : Character s c → Characters t cs →
      Characters (s ++ t) (c :: cs)

inductive Text : List Char → String → Prop
  | mk {s : List Char} {t : String} : Characters s t.toList → Text ('"' :: (s ++ ['"'])) t

/-- Items with commas between them. -/
inductive Separated {α : Type} (Item : List Char → α → Prop) : List Char → List α → Prop
  | last {s : List Char} {x : α} : Item s x → Separated Item s [x]
  | more {s t : List Char} {x : α} {xs : List α} : Item s x → Separated Item t xs →
      Separated Item (s ++ ',' :: t) (x :: xs)

/-- Items between brackets, or only blanks if there is none. -/
inductive Enclosed {α : Type} (opening closing : Char) (Item : List Char → α → Prop) :
    List Char → List α → Prop
  | none {s : List Char} : Blank s → Enclosed opening closing Item (opening :: (s ++ [closing])) []
  | some {s : List Char} {xs : List α} : Separated Item s xs →
      Enclosed opening closing Item (opening :: (s ++ [closing])) xs

mutual

inductive Value : List Char → Document → Prop
  | null : Value ['n', 'u', 'l', 'l'] .null
  | true : Value ['t', 'r', 'u', 'e'] (.bool true)
  | false : Value ['f', 'a', 'l', 's', 'e'] (.bool false)
  | number {w : String} : Number w.toList → Value w.toList (.number w)
  | text {s : List Char} {t : String} : Text s t → Value s (.text t)
  | array {s : List Char} {ds : List Document} : Enclosed '[' ']' Element s ds →
      Value s (.array ds)
  | object {s : List Char} {ms : List (String × Document)} : Enclosed '\x7b' '\x7d' Member s ms →
      Value s (.object ms)

inductive Element : List Char → Document → Prop
  | mk {a s b : List Char} {d : Document} : Blank a → Value s d → Blank b →
      Element (a ++ (s ++ b)) d

inductive Member : List Char → String × Document → Prop
  | mk {a k b s : List Char} {key : String} {d : Document} : Blank a → Text k key → Blank b →
      Element s d → Member (a ++ (k ++ (b ++ ':' :: s))) (key, d)

end

end Grammar

/-- A text stands for a document: it is a value between blanks. -/
def Denotes (s : String) (d : Document) : Prop := Grammar.Element s.toList d

namespace Grammar

/-! ## Seams -/

/-- Two runs of characters of one class that go on with something else are the same run. -/
theorem run_unique {p : Char → Bool} {a a' r r' : List Char} (ha : ∀ c ∈ a, p c = true)
    (ha' : ∀ c ∈ a', p c = true) (hr : ∀ c ∈ r.head?, p c = false)
    (hr' : ∀ c ∈ r'.head?, p c = false) (heq : a ++ r = a' ++ r') : a = a' ∧ r = r' := by
  have hrun : ∀ {a r : List Char}, (∀ c ∈ a, p c = true) → (∀ c ∈ r.head?, p c = false) →
      (a ++ r).takeWhile p = a := by
    intro a r ha hr
    rw [List.takeWhile_append_of_pos ha]
    cases r with
    | nil => rw [List.takeWhile_nil, List.append_nil]
    | cons c r => rw [List.takeWhile_cons, hr c rfl, if_neg (by simp), List.append_nil]
  have ha_eq : a = a' := by rw [← hrun ha hr, heq, hrun ha' hr']
  subst ha_eq
  exact ⟨rfl, List.append_cancel_left heq⟩

/-- Whether a character may stand in a number. -/
def isNumeral (c : Char) : Bool :=
  c.isDigit || c == '-' || c == '+' || c == '.' || c == 'e' || c == 'E'

/-- What may follow a value: nothing that could belong to a number. -/
def AfterValue (r : List Char) : Prop := ∀ c ∈ r.head?, isNumeral c = false

/-- What may follow an element: nothing that could belong to a number or to its blanks. -/
def AfterElement (r : List Char) : Prop := AfterValue r ∧ ∀ c ∈ r.head?, isBlank c = false

theorem isNumeral_of_isBlank {c : Char} (h : isBlank c = true) : isNumeral c = false := by
  simp only [isBlank, Bool.or_eq_true, beq_iff_eq] at h
  rcases h with ((rfl | rfl) | rfl) | rfl <;> rfl

theorem afterElement_cons {c : Char} (r : List Char) (hc : isNumeral c = false)
    (hb : isBlank c = false) : AfterElement (c :: r) := by
  refine ⟨fun x hx => ?_, fun x hx => ?_⟩ <;> obtain rfl := Option.some.inj hx <;> assumption

theorem afterValue_append {b r : List Char} (hb : Blank b) (hr : AfterElement r) :
    AfterValue (b ++ r) := by
  cases b with
  | nil => exact hr.1
  | cons x b =>
      intro c hc
      obtain rfl := Option.some.inj hc
      exact isNumeral_of_isBlank (hb _ (List.mem_cons_self ..))

/-! ## First characters -/

/-- What a value is, as far as its first character tells. -/
inductive Kind where
  | null
  | bool (b : Bool)
  | number
  | text
  | array
  | object

def kindOf : Document → Kind
  | .null => .null
  | .bool b => .bool b
  | .number _ => .number
  | .text _ => .text
  | .array _ => .array
  | .object _ => .object

/-- The kind of the values that begin with a character. -/
def kind? (c : Char) : Option Kind :=
  if c.isDigit || c == '-' then some .number
  else match c with
    | 'n' => some .null
    | 't' => some (.bool true)
    | 'f' => some (.bool false)
    | '"' => some .text
    | '[' => some .array
    | '\x7b' => some .object
    | _ => none

theorem Digits.numeral {s : List Char} (h : Digits s) : ∀ c ∈ s, isNumeral c = true := by
  intro c hc
  simp [isNumeral, h.2 c hc]

theorem Fraction.numeral {s : List Char} (h : Fraction s) : ∀ c ∈ s, isNumeral c = true := by
  cases h with
  | absent => exact List.forall_mem_nil _
  | present hdigits => exact List.forall_mem_cons.2 ⟨rfl, hdigits.numeral⟩

theorem Exponent.numeral {s : List Char} (h : Exponent s) : ∀ c ∈ s, isNumeral c = true := by
  cases h with
  | absent => exact List.forall_mem_nil _
  | @present e sign s he hsign hdigits =>
      have hletter : isNumeral e = true := by rcases he with rfl | rfl <;> rfl
      have hsigned : ∀ c ∈ sign, isNumeral c = true := by
        rcases hsign with rfl | rfl | rfl
        · exact List.forall_mem_nil _
        · exact List.forall_mem_singleton.2 rfl
        · exact List.forall_mem_singleton.2 rfl
      exact List.forall_mem_cons.2 ⟨hletter, List.forall_mem_append.2 ⟨hsigned, hdigits.numeral⟩⟩

theorem Number.numeral {s : List Char} (h : Number s) : ∀ c ∈ s, isNumeral c = true := by
  obtain @⟨sign, whole, fraction, exponent, hsign, hwhole, hfraction, hexponent⟩ := h
  have hsigned : ∀ c ∈ sign, isNumeral c = true := by
    rcases hsign with rfl | rfl
    · exact List.forall_mem_nil _
    · exact List.forall_mem_singleton.2 rfl
  simp only [List.forall_mem_append]
  exact ⟨hsigned, hwhole.1.numeral, hfraction.numeral, hexponent.numeral⟩

/-- A number begins with a digit or a minus sign. -/
theorem Number.first {s : List Char} (h : Number s) :
    ∃ c t, s = c :: t ∧ kind? c = some .number := by
  obtain @⟨sign, whole, fraction, exponent, hsign, ⟨⟨hne, hdigits⟩, -⟩, -, -⟩ := h
  rcases hsign with rfl | rfl
  · obtain ⟨d, whole, rfl⟩ := List.exists_cons_of_ne_nil hne
    have hd : d.isDigit = true := hdigits d (List.mem_cons_self ..)
    exact ⟨d, whole ++ (fraction ++ exponent), rfl, by simp [kind?, hd]⟩
  · exact ⟨'-', whole ++ (fraction ++ exponent), rfl, rfl⟩

theorem Text.first {s : List Char} {t : String} (h : Text s t) : ∃ u, s = '"' :: u := by
  obtain ⟨-⟩ := h
  exact ⟨_, rfl⟩

theorem Value.first {s : List Char} {d : Document} (h : Value s d) :
    ∃ c t, s = c :: t ∧ kind? c = some (kindOf d) := by
  cases h with
  | null | true | false => exact ⟨_, _, rfl, rfl⟩
  | number hn => exact hn.first
  | text ht =>
      obtain ⟨u, rfl⟩ := ht.first
      exact ⟨'"', u, rfl, rfl⟩
  | array hs | object hs =>
      cases hs
      · exact ⟨_, _, rfl, rfl⟩
      · exact ⟨_, _, rfl, rfl⟩

theorem not_isBlank_of_kind {c : Char} {k : Kind} (h : kind? c = some k) : isBlank c = false := by
  refine Bool.eq_false_iff.2 fun hb => ?_
  simp only [isBlank, Bool.or_eq_true, beq_iff_eq] at hb
  rcases hb with ((rfl | rfl) | rfl) | rfl <;> cases h

/-- Items begin, behind blanks, with a character that a value begins with. -/
def Opens {α : Type} (Item : List Char → α → Prop) : Prop :=
  ∀ ⦃s : List Char⦄ ⦃x : α⦄, Item s x →
    ∃ a c t k, s = a ++ c :: t ∧ Blank a ∧ kind? c = some k

theorem opens_element : Opens Element := by
  intro s d h
  obtain @⟨a, s, b, d, ha, hs, -⟩ := h
  obtain ⟨c, t, rfl, hc⟩ := hs.first
  exact ⟨a, c, t ++ b, _, rfl, ha, hc⟩

theorem opens_member : Opens Member := by
  intro s m h
  obtain @⟨a, k, b, s, key, d, ha, hk, -, -⟩ := h
  obtain ⟨u, rfl⟩ := hk.first
  exact ⟨a, '"', _, _, rfl, ha, rfl⟩

theorem Opens.separated {α : Type} {Item : List Char → α → Prop} (hopens : Opens Item) :
    Opens (Separated Item) := by
  intro s xs h
  cases h with
  | last hs => exact hopens hs
  | more hs _ =>
      obtain ⟨a, c, t, k, rfl, ha, hc⟩ := hopens hs
      exact ⟨a, c, _, k, by rw [List.append_assoc, List.cons_append], ha, hc⟩

/-! ## One reading -/

theorem unit?_length {u : List Char} {n : Nat} (h : unit? u = some n) : u.length = 4 := by
  unfold unit? at h
  split at h
  · rfl
  · cases h

/-- A character is no half of a surrogate pair. -/
theorem toNat_valid (c : Char) : c.toNat < 0xD800 ∨ 0xE000 ≤ c.toNat ∧ c.toNat < 0x110000 := c.valid

/-- The unit at the front of two texts that are the same is the same. -/
theorem unit_unique {u u' t t' : List Char} {n n' : Nat} (h : unit? u = some n)
    (h' : unit? u' = some n') (heq : u ++ t = u' ++ t') : n = n' ∧ t = t' := by
  obtain ⟨rfl, rfl⟩ := List.append_inj heq ((unit?_length h).trans (unit?_length h').symm)
  exact ⟨Option.some.inj (h.symm.trans h'), rfl⟩

theorem Character.not_quote {s : List Char} {c : Char} (h : Character s c) :
    ∃ x t, s = x :: t ∧ x ≠ '"' := by
  cases h with
  | plain _ hquote _ => exact ⟨_, _, rfl, hquote⟩
  | letter _ | unit _ | pair => exact ⟨'\\', _, rfl, by decide⟩

theorem Character.unique {s s' r r' : List Char} {c c' : Char} (h : Character s c)
    (h' : Character s' c') (heq : s ++ r = s' ++ r') : c = c' ∧ r = r' := by
  -- the character behind a backslash tells a letter from a code, and no half of a pair is a code
  cases h with
  | plain _ _ hslash =>
      cases h' with
      | plain => simpa using heq
      | letter _ | unit _ | pair => exact absurd (List.cons.inj heq).1 hslash
  | letter hx =>
      cases h' with
      | plain _ _ hslash => exact absurd (List.cons.inj heq).1.symm hslash
      | letter hx' =>
          simp only [List.cons_append, List.nil_append, List.cons.injEq, true_and] at heq
          obtain ⟨rfl, rfl⟩ := heq
          exact ⟨Option.some.inj (hx.symm.trans hx'), rfl⟩
      | unit _ | pair =>
          obtain rfl := (List.cons.inj (List.cons.inj heq).2).1
          cases hx
  | unit hu =>
      cases h' with
      | plain _ _ hslash => exact absurd (List.cons.inj heq).1.symm hslash
      | letter hx' =>
          obtain rfl := (List.cons.inj (List.cons.inj heq).2).1
          cases hx'
      | unit hu' =>
          obtain ⟨hcode, rfl⟩ := unit_unique hu hu' (List.cons.inj (List.cons.inj heq).2).2
          exact ⟨Char.toNat_inj.1 hcode, rfl⟩
      | pair hn _ hlow hhigh =>
          simp only [List.cons_append, List.append_assoc, List.cons.injEq, true_and] at heq
          obtain ⟨rfl, -⟩ := unit_unique hu hn heq
          have := toNat_valid c
          omega
  | pair hn hk hlow hhigh _ _ hc =>
      cases h' with
      | plain _ _ hslash => exact absurd (List.cons.inj heq).1.symm hslash
      | letter hx' =>
          obtain rfl := (List.cons.inj (List.cons.inj heq).2).1
          cases hx'
      | unit hu' =>
          simp only [List.cons_append, List.append_assoc, List.cons.injEq, true_and] at heq
          obtain ⟨rfl, -⟩ := unit_unique hn hu' heq
          have := toNat_valid c'
          omega
      | pair hn' hk' _ _ _ _ hc' =>
          simp only [List.cons_append, List.append_assoc, List.cons.injEq, true_and] at heq
          obtain ⟨rfl, heq⟩ := unit_unique hn hn' heq
          simp only [List.cons.injEq, true_and] at heq
          obtain ⟨rfl, rfl⟩ := unit_unique hk hk' heq
          exact ⟨Char.toNat_inj.1 (hc.trans hc'.symm), rfl⟩

theorem Characters.unique {s s' r r' : List Char} {cs cs' : List Char} (h : Characters s cs)
    (h' : Characters s' cs') (heq : s ++ '"' :: r = s' ++ '"' :: r') : cs = cs' ∧ r = r' := by
  induction h generalizing s' cs' with
  | nil =>
      cases h' with
      | nil => exact ⟨rfl, (List.cons.inj heq).2⟩
      | cons hs' _ =>
          obtain ⟨x, t, rfl, hx⟩ := hs'.not_quote
          exact absurd (List.cons.inj heq).1.symm hx
  | cons hs _ ih =>
      cases h' with
      | nil =>
          obtain ⟨x, t, rfl, hx⟩ := hs.not_quote
          exact absurd (List.cons.inj heq).1 hx
      | cons hs' ht' =>
          rw [List.append_assoc, List.append_assoc] at heq
          obtain ⟨rfl, heq⟩ := hs.unique hs' heq
          obtain ⟨rfl, rfl⟩ := ih ht' heq
          exact ⟨rfl, rfl⟩

theorem Text.unique {s s' r r' : List Char} {t t' : String} (h : Text s t) (h' : Text s' t')
    (heq : s ++ r = s' ++ r') : t = t' ∧ r = r' := by
  obtain ⟨h⟩ := h
  obtain ⟨h'⟩ := h'
  simp only [List.cons_append, List.append_assoc, List.nil_append, List.cons.injEq,
    true_and] at heq
  obtain ⟨hchars, rfl⟩ := h.unique h' heq
  exact ⟨String.toList_inj.1 hchars, rfl⟩

/-- Blanks before a character that is none are the same, and so is what stands behind them. -/
theorem blank_unique {a a' t t' : List Char} {c c' : Char} (ha : Blank a) (ha' : Blank a')
    (hc : isBlank c = false) (hc' : isBlank c' = false) (heq : a ++ c :: t = a' ++ c' :: t') :
    c :: t = c' :: t' := by
  refine (run_unique ha ha' ?_ ?_ heq).2
  · intro x hx
    obtain rfl := Option.some.inj hx
    exact hc
  · intro x hx
    obtain rfl := Option.some.inj hx
    exact hc'

/-- An item is told by the characters that it is written with, whatever follows. -/
def ReadOnce {α : Type} (Item : List Char → α → Prop) (x : α) : Prop :=
  ∀ ⦃s s' r r' : List Char⦄ ⦃x' : α⦄, Item s x → Item s' x' → AfterElement r →
    AfterElement r' → s ++ r = s' ++ r' → x = x' ∧ r = r'

/-- A bracket that closes: it begins no value and does not go on with the items. -/
structure Closes (c : Char) : Prop where
  noKind : kind? c = none
  noComma : c ≠ ','
  after : ∀ r, AfterElement (c :: r)

theorem afterElement_comma (r : List Char) : AfterElement (',' :: r) := afterElement_cons r rfl rfl

theorem closes_array : Closes ']' := ⟨rfl, by decide, fun r => afterElement_cons r rfl rfl⟩

theorem closes_object : Closes '\x7d' := ⟨rfl, by decide, fun r => afterElement_cons r rfl rfl⟩

section Items

variable {α : Type} {Item : List Char → α → Prop} {closing : Char}

theorem Separated.unique (hc : Closes closing) {s s' r r' : List Char} {xs xs' : List α}
    (h : Separated Item s xs) (honce : ∀ x ∈ xs, ReadOnce Item x) (h' : Separated Item s' xs')
    (heq : s ++ closing :: r = s' ++ closing :: r') : xs = xs' ∧ r = r' := by
  induction h generalizing s' xs' with
  | last hs =>
      have hx := honce _ (List.mem_cons_self ..)
      cases h' with
      | last hs' =>
          obtain ⟨rfl, hrest⟩ := hx hs hs' (hc.after _) (hc.after _) heq
          exact ⟨rfl, (List.cons.inj hrest).2⟩
      | more hs' _ =>
          rw [List.append_assoc, List.cons_append] at heq
          have hrest := (hx hs hs' (hc.after _) (afterElement_comma _) heq).2
          exact absurd (List.cons.inj hrest).1 hc.noComma
  | more hs _ ih =>
      have hx := honce _ (List.mem_cons_self ..)
      rw [List.append_assoc, List.cons_append] at heq
      cases h' with
      | last hs' =>
          have hrest := (hx hs hs' (afterElement_comma _) (hc.after _) heq).2
          exact absurd (List.cons.inj hrest).1.symm hc.noComma
      | more hs' ht' =>
          rw [List.append_assoc, List.cons_append] at heq
          obtain ⟨rfl, hrest⟩ := hx hs hs' (afterElement_comma _) (afterElement_comma _) heq
          obtain ⟨rfl, rfl⟩ := ih (fun x hx => honce x (List.mem_cons_of_mem _ hx)) ht'
            (List.cons.inj hrest).2
          exact ⟨rfl, rfl⟩

theorem Separated.not_blank (hc : Closes closing) (hopens : Opens Item) {a s r r' : List Char}
    {xs : List α} (h : Separated Item s xs) (ha : Blank a) : a ++ closing :: r ≠ s ++ r' := by
  intro heq
  obtain ⟨a', c, t, k, rfl, ha', hk⟩ := hopens.separated h
  rw [List.append_assoc, List.cons_append] at heq
  have hblank : isBlank closing = false := (hc.after []).2 _ rfl
  obtain rfl := (List.cons.inj (blank_unique ha ha' hblank (not_isBlank_of_kind hk) heq)).1
  rw [hc.noKind] at hk
  cases hk

theorem Enclosed.unique (hc : Closes closing) (hopens : Opens Item) {opening : Char}
    {s s' r r' : List Char} {xs xs' : List α} (h : Enclosed opening closing Item s xs)
    (honce : ∀ x ∈ xs, ReadOnce Item x) (h' : Enclosed opening closing Item s' xs')
    (heq : s ++ r = s' ++ r') : xs = xs' ∧ r = r' := by
  have hblank : isBlank closing = false := (hc.after []).2 _ rfl
  -- what stands behind the opening bracket, with the closing one in sight
  have hinner : ∀ {t t' : List Char},
      opening :: (t ++ [closing]) ++ r = opening :: (t' ++ [closing]) ++ r' →
      t ++ closing :: r = t' ++ closing :: r' := by
    intro t t' heq
    simpa using heq
  cases h with
  | none ha =>
      cases h' with
      | none ha' =>
          exact ⟨rfl, (List.cons.inj (blank_unique ha ha' hblank hblank (hinner heq))).2⟩
      | some hs' => exact absurd (hinner heq) (hs'.not_blank hc hopens ha)
  | some hs =>
      cases h' with
      | none ha' => exact absurd (hinner heq).symm (hs.not_blank hc hopens ha')
      | some hs' => exact hs.unique hc honce hs' (hinner heq)

end Items

theorem ReadOnce.member {key : String} {d : Document} (h : ReadOnce Element d) :
    ReadOnce Member (key, d) := by
  intro s s' r r' m' hm hm' hr hr' heq
  obtain @⟨a, k, b, s, _, _, ha, hk, hb, hs⟩ := hm
  obtain @⟨a', k', b', s', key', d', ha', hk', hb', hs'⟩ := hm'
  simp only [List.append_assoc, List.cons_append] at heq
  -- both texts begin with a quote, and both colons stand behind blanks
  have htext : k ++ (b ++ ':' :: (s ++ r)) = k' ++ (b' ++ ':' :: (s' ++ r')) := by
    obtain ⟨u, rfl⟩ := hk.first
    obtain ⟨u', rfl⟩ := hk'.first
    exact blank_unique ha ha' rfl rfl heq
  obtain ⟨rfl, hcolon⟩ := hk.unique hk' htext
  have helement := (List.cons.inj (blank_unique hb hb' rfl rfl hcolon)).2
  obtain ⟨rfl, rfl⟩ := h hs hs' hr hr' helement
  exact ⟨rfl, rfl⟩

/-- A value is told by its characters if the documents in it are. -/
theorem Value.unique {s s' r r' : List Char} {d d' : Document} (h : Value s d)
    (hparts : ∀ e ∈ d.parts, ReadOnce Element e) (h' : Value s' d') (hr : AfterValue r)
    (hr' : AfterValue r') (heq : s ++ r = s' ++ r') : d = d' ∧ r = r' := by
  -- both begin with one character, so both were read by the rules for one kind
  have hkind : kindOf d = kindOf d' := by
    obtain ⟨c, t, rfl, hc⟩ := h.first
    obtain ⟨c', t', rfl, hc'⟩ := h'.first
    obtain rfl := (List.cons.inj heq).1
    exact Option.some.inj (hc.symm.trans hc')
  cases h with
  | null =>
      cases h' with
      | null => exact ⟨rfl, List.append_cancel_left heq⟩
      | _ => cases hkind
  | true =>
      cases h' with
      | true => exact ⟨rfl, List.append_cancel_left heq⟩
      | _ => cases hkind
  | false =>
      cases h' with
      | false => exact ⟨rfl, List.append_cancel_left heq⟩
      | _ => cases hkind
  | number hn =>
      cases h' with
      | number hn' =>
          obtain ⟨hw, rfl⟩ := run_unique hn.numeral hn'.numeral hr hr' heq
          rw [String.toList_inj.1 hw]
          exact ⟨rfl, rfl⟩
      | _ => cases hkind
  | text ht =>
      cases h' with
      | text ht' =>
          obtain ⟨rfl, rfl⟩ := ht.unique ht' heq
          exact ⟨rfl, rfl⟩
      | _ => cases hkind
  | array hs =>
      cases h' with
      | array hs' =>
          obtain ⟨rfl, rfl⟩ := hs.unique closes_array opens_element hparts hs' heq
          exact ⟨rfl, rfl⟩
      | _ => cases hkind
  | @object _ ms hs =>
      cases h' with
      | object hs' =>
          have hmembers : ∀ m ∈ ms, ReadOnce Member m := fun m hm =>
            (hparts m.2 (List.mem_map_of_mem hm)).member
          obtain ⟨rfl, rfl⟩ := hs.unique closes_object opens_member hmembers hs' heq
          exact ⟨rfl, rfl⟩
      | _ => cases hkind

theorem element_readOnce (d : Document) : ReadOnce Element d := by
  intro s s' r r' d' h h' hr hr' heq
  obtain @⟨a, s, b, _, ha, hs, hb⟩ := h
  obtain @⟨a', s', b', _, ha', hs', hb'⟩ := h'
  simp only [List.append_assoc] at heq
  have hvalue : s ++ (b ++ r) = s' ++ (b' ++ r') := by
    obtain ⟨c, t, rfl, hc⟩ := hs.first
    obtain ⟨c', t', rfl, hc'⟩ := hs'.first
    exact blank_unique ha ha' (not_isBlank_of_kind hc) (not_isBlank_of_kind hc') heq
  have hparts : ∀ e ∈ d.parts, ReadOnce Element e := fun e _ => element_readOnce e
  -- behind the value may stand blanks, or what follows the element: neither goes on with a number
  obtain ⟨rfl, hrest⟩ := hs.unique hparts hs' (afterValue_append hb hr)
    (afterValue_append hb' hr') hvalue
  exact ⟨rfl, (run_unique hb hb' hr.2 hr'.2 hrest).2⟩
termination_by sizeOf d
decreasing_by exact Document.sizeOf_lt_of_mem_parts ‹_›

end Grammar

/-- A text stands for one document at most. -/
theorem Denotes.unique {s : String} {d e : Document} (hd : Denotes s d) (he : Denotes s e) :
    d = e := by
  have hend : Grammar.AfterElement [] := ⟨fun _ hc => (nomatch hc), fun _ hc => (nomatch hc)⟩
  exact (Grammar.element_readOnce d hd he hend hend rfl).1

end CommandTelemetry.Json
