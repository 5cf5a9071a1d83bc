import CommandTelemetry.Proofs.InvocationSpan
import CommandTelemetry.Proofs.NormalForm
import CommandTelemetry.Proofs.Redaction

/-!
# Usage on a span

When an invocation is over, the recorded use is written on its span. A value that spans can have is
written as it is, but for sequences, which all become lists, and only if its name is not sensitive.
So where no limit is exceeded, the span then has under each name the value that was recorded last,
and under every other name what it had there before.
-/

namespace CommandTelemetry

open Trace Attribute

/-- A value as spans have it. -/
def Value.carried : Value → Value
  | list items | tuple items => list items
  | range start stop => list (rangeItems start stop)
  | v => v

namespace Attribute

variable {limit : Option Int} {v : Value} {attrs others : Attributes}

/-! ## Values that spans can have -/

theorem normalizeValue_carried (h : IsNormal limit v.carried) :
    normalizeValue limit v = .ok v.carried := by
  cases v with
  | tuple items =>
      rw [normalizeValue, normalizeItems_of_isNormal h]
      rfl
  | range start stop =>
      rw [normalizeValue, normalizeItems_of_isNormal h]
      rfl
  | _ => exact normalizeValue_of_isNormal h

theorem lookup_map (f : Value → Value) (attrs : Attributes) (k : String) :
    (attrs.map fun a => (a.1, f a.2)).lookup k = (attrs.lookup k).map f := by
  induction attrs with
  | nil => rfl
  | cons a rest ih =>
      rw [List.map_cons, List.lookup_cons, List.lookup_cons]
      cases k == a.1 with
      | true => rfl
      | false => exact ih

theorem lookup_of_perm (hperm : others.Perm attrs) (hkeys : (attrs.map Prod.fst).Nodup)
    (k : String) : others.lookup k = attrs.lookup k := by
  cases hk : attrs.lookup k with
  | some v =>
      obtain ⟨front, behind, rfl, -⟩ := List.lookup_eq_some_iff.1 hk
      refine lookup_of_mem ((hperm.map Prod.fst).nodup_iff.2 hkeys) (hperm.mem_iff.2 ?_)
      exact List.mem_append_right front List.mem_cons_self
  | none =>
      rw [List.lookup_eq_none_iff] at hk ⊢
      exact fun a ha => hk a (hperm.mem_iff.1 ha)

end Attribute

namespace Trace.Span

variable {limits : Limits} {settings : Settings} {span : Span} {named : Attributes} {k : String}

theorem cutItems_of_forall {n : Nat} {items : List Value} (h : ∀ v ∈ items, cutValue n v = v) :
    cutItems n items = items := by
  induction items with
  | nil => rw [cutItems]
  | cons v rest ih =>
      obtain ⟨hv, hrest⟩ := List.forall_mem_cons.1 h
      rw [cutItems, hv, ih hrest]

theorem kept_of_isNormal {v : Value} (h : IsNormal (limits.textLength.map Int.ofNat) v) :
    kept limits v = v := by
  cases hlimit : limits.textLength with
  | none => rw [kept, hlimit]
  | some n =>
      have htext : ∀ s, Fits (limits.textLength.map Int.ofNat) s →
          kept limits (.text s) = .text s := fun s hs => kept_text fun m hm => by
        have hlength := hs m (by rw [hm]; rfl)
        omega
      have hkept : ∀ w, kept limits w = cutValue n w := fun w => by rw [kept, hlimit]
      have hlist : ∀ items : List Value, (∀ w ∈ items, kept limits w = w) →
          kept limits (.list items) = .list items := fun items hitems => by
        rw [hkept, cutValue, cutItems_of_forall fun w hw => (hkept w).symm.trans (hitems w hw)]
      cases h with
      | text hs => exact htext _ hs
      | bool _ | int _ | exit _ | float _ => exact hkept _
      | bools hitems | integers hitems | floats hitems =>
          refine hlist _ fun w hw => ?_
          have hkind := hitems w hw
          cases w <;> first | exact hkept _ | cases hkind
      | texts hitems =>
          refine hlist _ fun w hw => ?_
          obtain ⟨s, rfl, hs⟩ := hitems w hw
          exact htext s hs

/-- A fact that spans of these limits take in as it is: its name is not sensitive, and its value is
a scalar or a sequence of scalars of one kind, which exit codes are not, and none of them is a text
that is too long. -/
structure Takes (settings : Settings) (limits : Limits) (fact : String × Value) : Prop where
  isOpen : ¬Sensitive settings.redactKeys fact.1
  isNormal : IsNormal settings.lengthLimit fact.2.carried
  isShort : IsNormal (limits.textLength.map Int.ofNat) fact.2.carried
  isTaken : isRefused fact.2.carried = false

theorem Takes.write? {fact : String × Value} (h : Takes settings limits fact) :
    write? settings (.text fact.1, fact.2) = .ok (some (fact.1, fact.2.carried)) := by
  have hpresent : fact.2.isNull = false := by
    have hnormal := h.isNormal
    cases hv : fact.2 with
    | null =>
        rw [hv] at hnormal
        cases hnormal
    | _ => rfl
  have hopen : isSensitive settings.redactKeys fact.1 = false :=
    Bool.eq_false_iff.2 fun hkey => h.isOpen (isSensitive_iff.1 hkey)
  have hvalue : normalizeValue settings.lengthLimit fact.2 = .ok fact.2.carried :=
    normalizeValue_carried h.isNormal
  rw [write?_of_open hpresent rfl hopen, hvalue]
  rfl

theorem normalizeAll_of_takes (hkeys : (named.map Prod.fst).Nodup)
    (h : ∀ a ∈ named, Takes settings limits a) :
    normalizeAll settings (facts named) = .ok (named.map fun a => (a.1, a.2.carried)) := by
  refine normalizeAll_eq_ok_iff.2 ⟨named.map fun a => some (a.1, a.2.carried), ?_, ?_⟩
  · rw [facts, List.forall₂_map_left_iff, List.forall₂_map_right_iff, List.forall₂_same]
    exact fun a ha => (h a ha).write?
  · have hwrites : (named.map fun a => some (a.1, a.2.carried)).reduceOption =
        named.map fun a => (a.1, a.2.carried) := by
      rw [List.reduceOption, List.filterMap_map]
      exact congrFun List.filterMap_eq_map named
    rw [hwrites, putAll_nil_of_nodup]
    rw [List.map_map]
    exact hkeys

theorem normalize_of_takes (hkeys : (named.map Prod.fst).Nodup)
    (h : ∀ a ∈ named, Takes settings limits a)
    (hcount : ∀ n, settings.countLimit = some n → (named.length : Int) ≤ n) :
    normalize settings (facts named) = .ok ⟨named.map fun a => (a.1, a.2.carried), []⟩ :=
  normalize_of_length_le (normalizeAll_of_takes hkeys h) (by rwa [List.length_map])

/-- The span after it took in what some writes of usage come to. -/
theorem lookup_setAttributes_carried (hrecording : span.isRecording = true)
    (htidy : Tidy span.attributes) (h : ∀ a ∈ named, Takes settings span.limits a)
    (hroom : Room span.limits (span.attributes.map Prod.fst ++ named.map Prod.fst)) (hk : k ≠ "") :
    (span.setAttributes ((putAll [] named).map fun a => (a.1, a.2.carried))).attributes.lookup k =
      ((named.reverse.lookup k).map Value.carried).or (span.attributes.lookup k) := by
  have hsub : ∀ a ∈ putAll [] named, a ∈ named := fun a ha =>
    (mem_putAll ha).resolve_left List.not_mem_nil
  have hkeys : ((putAll [] named).map Prod.fst).Nodup := nodup_keys_putAll List.nodup_nil
  have hfits : Room span.limits (span.attributes.map Prod.fst ++
      ((putAll [] named).map fun a => (a.1, a.2.carried)).map Prod.fst) := by
    refine hroom.mono fun j hj _ => ?_
    rw [List.map_map] at hj
    rcases List.mem_append.1 hj with hj | hj
    · exact List.mem_append_left _ hj
    · obtain ⟨a, ha, rfl⟩ := List.mem_map.1 hj
      exact List.mem_append_right _ (List.mem_map.2 ⟨a, hsub a ha, rfl⟩)
  have htaken : ∀ a ∈ (putAll [] named).map fun a => (a.1, a.2.carried),
      a.1 = k → isRefused a.2 = false := by
    intro a ha _
    obtain ⟨b, hb, rfl⟩ := List.mem_map.1 ha
    exact (h b (hsub b hb)).isTaken
  have hlookup : (putAll [] named).lookup k = named.reverse.lookup k := by
    rw [lookup_putAll, List.lookup_nil, Option.or_none]
  rw [setAttributes_of_recording hrecording, lookup_storeAll hk htaken htidy hfits,
    ← List.map_reverse, lookup_map, lookup_of_perm (List.reverse_perm _) hkeys, hlookup,
    Option.map_map]
  congr 1
  cases hvalue : named.reverse.lookup k with
  | none => rfl
  | some v =>
      obtain ⟨front, behind, hnamed, -⟩ := List.lookup_eq_some_iff.1 hvalue
      have hmem : (k, v) ∈ named := List.mem_reverse.1
        (hnamed ▸ List.mem_append_right front List.mem_cons_self)
      exact congrArg some (kept_of_isNormal (h _ hmem).isShort)

end Trace.Span

/-! ## The span of an invocation -/

namespace Interceptor

variable {ε : Type}

theorem tidy_spanOf (options : CommandOptions) (ctx : Option Context) (s : Session ε) :
    Span.Tidy (spanOf options ctx s).attributes := by
  have hnone : Span.Tidy [] := ⟨List.nodup_nil, List.not_mem_nil⟩
  have hstart : Span.Tidy (start options ctx s).1.attributes := by
    unfold start Session.startSpan
    cases s.provider.filter (!·.isDisabled) with
    | none => exact hnone
    | some p => exact Span.tidy_setAttributes hnone _
  rw [spanOf, describe_eq]
  exact Span.tidy_setAttributes hstart _

theorem tidy_settledSpan (domains : List Domain) (settings : Settings)
    (outcome : Except Failure Answer) {span : Span} (h : Span.Tidy span.attributes) :
    Span.Tidy (settledSpan domains settings span outcome).attributes := by
  unfold settledSpan
  cases outcome with
  | ok _ => exact h
  | error f =>
      dsimp only
      split
      · have hmarked := Span.tidy_setAttributes h ((f.classify domains).shown settings).value
        unfold marked Span.setError
        split <;> exact hmarked
      · exact h

end Interceptor

end CommandTelemetry
