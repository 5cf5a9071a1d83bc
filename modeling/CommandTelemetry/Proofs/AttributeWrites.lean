import Mathlib.Data.List.Forall2
import Mathlib.Data.List.Nodup
import Mathlib.Data.List.Perm.Basic
import Mathlib.Data.List.ReduceOption
import CommandTelemetry.Attribute.Normalize

/-!
# Normalization as a list of writes

Facts are normalized one by one into a list of attributes that grows. What a fact writes into that
list depends on the settings and on the fact, but not on the list: `write?`. So normalization has
two passes that do not meddle with each other. The first works out what each fact writes and is the
only one that can fail. The second, `putAll`, carries out the writes: a key that is written again
keeps its place and takes the new value.

Whatever is said about all attributes of a result is therefore said about single writes, and
whatever is said about failures is said about single facts.
-/

namespace CommandTelemetry.Attribute

/-! ## Writing into a list of attributes -/

section Writing

variable {α : Type} {attrs writes : List (String × α)}

theorem mem_put {k : String} {v : α} {a : String × α} (h : a ∈ put attrs k v) :
    a = (k, v) ∨ a ∈ attrs := by
  induction attrs with
  | nil => exact Or.inl (List.mem_singleton.1 h)
  | cons e rest ih =>
      rw [put] at h
      split at h
      · rcases List.mem_cons.1 h with h | h
        · exact Or.inl h
        · exact Or.inr (List.mem_cons_of_mem _ h)
      · rcases List.mem_cons.1 h with rfl | h
        · exact Or.inr List.mem_cons_self
        · exact (ih h).imp_right (List.mem_cons_of_mem _)

theorem length_put_le (attrs : List (String × α)) (k : String) (v : α) :
    (put attrs k v).length ≤ attrs.length + 1 := by
  induction attrs with
  | nil => exact Nat.le_refl 1
  | cons e rest ih =>
      rw [put]
      split
      · exact Nat.le_succ _
      · exact Nat.succ_le_succ ih

theorem put_of_notMem {k : String} {v : α} (h : k ∉ attrs.map Prod.fst) :
    put attrs k v = attrs ++ [(k, v)] := by
  induction attrs with
  | nil => rfl
  | cons e rest ih =>
      rw [List.map_cons, List.mem_cons, not_or] at h
      rw [put, if_neg (Ne.symm h.1), ih h.2, List.cons_append]

theorem lookup_put (attrs : List (String × α)) (k j : String) (v : α) :
    (put attrs k v).lookup j = if j = k then some v else attrs.lookup j := by
  induction attrs with
  | nil =>
      rw [put, List.lookup_cons]
      by_cases hj : j = k
      · rw [if_pos hj, beq_iff_eq.2 hj]
      · rw [if_neg hj, beq_false_of_ne hj]
  | cons e rest ih =>
      rw [put]
      by_cases hk : e.1 = k
      · rw [if_pos hk, List.lookup_cons]
        by_cases hj : j = k
        · rw [if_pos hj, beq_iff_eq.2 hj]
        · rw [if_neg hj, beq_false_of_ne hj, List.lookup_cons, hk, beq_false_of_ne hj]
      · rw [if_neg hk, List.lookup_cons, List.lookup_cons]
        by_cases he : j = e.1
        · rw [beq_iff_eq.2 he, if_neg fun hj => hk (he ▸ hj)]
        · rw [beq_false_of_ne he]
          exact ih

theorem nodup_keys_put {k : String} {v : α} (h : (attrs.map Prod.fst).Nodup) :
    ((put attrs k v).map Prod.fst).Nodup := by
  induction attrs with
  | nil => exact List.nodup_cons.2 ⟨List.not_mem_nil, List.nodup_nil⟩
  | cons e rest ih =>
      obtain ⟨hfresh, hrest⟩ := List.nodup_cons.1 h
      rw [put]
      split
      · next hk => exact List.nodup_cons.2 ⟨hk ▸ hfresh, hrest⟩
      · next hk =>
          refine List.nodup_cons.2 ⟨fun hmem => ?_, ih hrest⟩
          obtain ⟨a, ha, hkey⟩ := List.mem_map.1 hmem
          rcases mem_put ha with rfl | ha
          · exact hk hkey.symm
          · exact hfresh (List.mem_map.2 ⟨a, ha, hkey⟩)

theorem keys_put_of_mem {k : String} {v : α} (h : k ∈ attrs.map Prod.fst) :
    (put attrs k v).map Prod.fst = attrs.map Prod.fst := by
  induction attrs with
  | nil => exact absurd h List.not_mem_nil
  | cons e rest ih =>
      rw [put]
      by_cases hk : e.1 = k
      · rw [if_pos hk, List.map_cons, List.map_cons, hk]
      · have hrest : k ∈ rest.map Prod.fst := (List.mem_cons.1 h).resolve_left (Ne.symm hk)
        rw [if_neg hk, List.map_cons, List.map_cons, ih hrest]

theorem map_put {β : Type} (f : α → β) (attrs : List (String × α)) (k : String) (v : α) :
    (put attrs k v).map (fun e => (e.1, f e.2)) =
      put (attrs.map fun e => (e.1, f e.2)) k (f v) := by
  induction attrs with
  | nil => rfl
  | cons e rest ih =>
      rw [put, List.map_cons, put]
      by_cases hk : e.1 = k
      · rw [if_pos hk, if_pos hk, List.map_cons]
      · rw [if_neg hk, if_neg hk, List.map_cons, ih]

/-- Carries out writes in order. -/
def putAll (attrs writes : List (String × α)) : List (String × α) :=
  writes.foldl (fun as w => put as w.1 w.2) attrs

theorem mem_putAll {a : String × α} (h : a ∈ putAll attrs writes) :
    a ∈ attrs ∨ a ∈ writes := by
  induction writes generalizing attrs with
  | nil => exact Or.inl h
  | cons w rest ih =>
      rcases ih h with h | h
      · rcases mem_put h with rfl | h
        · exact Or.inr List.mem_cons_self
        · exact Or.inl h
      · exact Or.inr (List.mem_cons_of_mem _ h)

/-- The last write under a key decides what it holds. -/
theorem lookup_putAll (attrs writes : List (String × α)) (j : String) :
    (putAll attrs writes).lookup j = (writes.reverse.lookup j).or (attrs.lookup j) := by
  induction writes generalizing attrs with
  | nil => rfl
  | cons w rest ih =>
      have hfirst : (putAll attrs (w :: rest)).lookup j =
          (rest.reverse.lookup j).or ((put attrs w.1 w.2).lookup j) := ih _
      rw [hfirst, lookup_put, List.reverse_cons, List.lookup_append, Option.or_assoc]
      congr 1
      rw [List.lookup_cons, List.lookup_nil]
      by_cases hj : j = w.1
      · rw [if_pos hj, beq_iff_eq.2 hj]
        rfl
      · rw [if_neg hj, beq_false_of_ne hj]
        rfl

theorem length_putAll_le (attrs writes : List (String × α)) :
    (putAll attrs writes).length ≤ attrs.length + writes.length := by
  induction writes generalizing attrs with
  | nil => exact Nat.le_refl _
  | cons w rest ih =>
      have hput := length_put_le attrs w.1 w.2
      have hrest : (putAll attrs (w :: rest)).length ≤ (put attrs w.1 w.2).length + rest.length :=
        ih _
      rw [List.length_cons]
      omega

/-- Keys that are there keep their places. The others follow, each where it is first written. -/
theorem keys_putAll (attrs writes : List (String × α)) :
    (putAll attrs writes).map Prod.fst =
      attrs.map Prod.fst ++
        ((writes.map Prod.fst).filter (· ∉ attrs.map Prod.fst)).eraseDups := by
  induction writes generalizing attrs with
  | nil => exact (List.append_nil _).symm
  | cons w rest ih =>
      have hfirst : putAll attrs (w :: rest) = putAll (put attrs w.1 w.2) rest := rfl
      rw [hfirst, ih, List.map_cons]
      by_cases hw : w.1 ∈ attrs.map Prod.fst
      · rw [keys_put_of_mem hw, List.filter_cons_of_neg (by simpa using hw)]
      · have hkeys : (put attrs w.1 w.2).map Prod.fst = attrs.map Prod.fst ++ [w.1] := by
          rw [put_of_notMem hw, List.map_append, List.map_singleton]
        -- What is new beside this key, too, is what else is new without it.
        have hnew : (rest.map Prod.fst).filter (· ∉ attrs.map Prod.fst ++ [w.1]) =
            ((rest.map Prod.fst).filter (· ∉ attrs.map Prod.fst)).filter (!· == w.1) := by
          rw [List.filter_filter]
          refine List.filter_congr fun k _ => ?_
          simp only [List.mem_append, List.mem_singleton, not_or, Bool.decide_and, Bool.and_comm,
            decide_not, beq_eq_decide]
        rw [hkeys, hnew, List.filter_cons_of_pos (by simpa using hw), List.eraseDups_cons,
          List.append_assoc, List.singleton_append]

theorem nodup_keys_putAll (h : (attrs.map Prod.fst).Nodup) :
    ((putAll attrs writes).map Prod.fst).Nodup := by
  induction writes generalizing attrs with
  | nil => exact h
  | cons w rest ih => exact ih (nodup_keys_put h)

theorem notMem_keys_of_nodup {rest : List (String × α)} {a : String × α}
    (h : ((attrs ++ a :: rest).map Prod.fst).Nodup) : a.1 ∉ attrs.map Prod.fst := by
  rw [List.map_append, List.map_cons] at h
  exact fun hmem => (List.nodup_append.1 h).2.2 _ hmem _ List.mem_cons_self rfl

theorem putAll_of_nodup (h : ((attrs ++ writes).map Prod.fst).Nodup) :
    putAll attrs writes = attrs ++ writes := by
  induction writes generalizing attrs with
  | nil => rw [List.append_nil]; rfl
  | cons w rest ih =>
      have hput : put attrs w.1 w.2 = attrs ++ [w] := put_of_notMem (notMem_keys_of_nodup h)
      have happend : attrs ++ w :: rest = attrs ++ [w] ++ rest := by simp
      rw [happend] at h ⊢
      rw [← ih h, ← hput]
      rfl

theorem putAll_nil_of_nodup (h : (writes.map Prod.fst).Nodup) : putAll [] writes = writes :=
  putAll_of_nodup h

end Writing

variable {settings : Settings} {attrs writes : Attributes}

/-! ## What a fact writes -/

/-- The attribute that a fact writes, if it writes any. -/
def write? (settings : Settings) (e : Value × Value) : Except Fault (Option (String × Value)) :=
  if e.2.isNull then .ok none
  else
    match e.1.display with
    | .error fault => .error fault
    | .ok key =>
      if isSensitive settings.redactKeys key then
        .ok (some (key, .text (cut settings.lengthLimit mask)))
      else (normalizeValue settings.lengthLimit e.2).map fun v => some (key, v)

section Writes

variable {e : Value × Value} {key : String}

theorem write?_of_untold {fault : Fault} (hpresent : e.2.isNull = false)
    (hkey : e.1.display = .error fault) : write? settings e = .error fault := by
  rw [write?, hpresent, if_neg Bool.false_ne_true, hkey]

theorem write?_of_isSensitive (hpresent : e.2.isNull = false) (hkey : e.1.display = .ok key)
    (hsensitive : isSensitive settings.redactKeys key = true) :
    write? settings e = .ok (some (key, .text (cut settings.lengthLimit mask))) := by
  rw [write?, hpresent, if_neg Bool.false_ne_true, hkey]
  exact if_pos hsensitive

theorem write?_of_open (hpresent : e.2.isNull = false) (hkey : e.1.display = .ok key)
    (hopen : isSensitive settings.redactKeys key = false) :
    write? settings e = (normalizeValue settings.lengthLimit e.2).map fun v => some (key, v) := by
  rw [write?, hpresent, if_neg Bool.false_ne_true, hkey]
  exact if_neg (ne_true_of_eq_false hopen)

/-- A fact is absent, or masked, or reduced. -/
theorem write?_cases {w : Option (String × Value)} (h : write? settings e = .ok w) :
    e.2.isNull = true ∧ w = none ∨
    ∃ key, e.2.isNull = false ∧ e.1.display = .ok key ∧
      (isSensitive settings.redactKeys key = true ∧
          w = some (key, .text (cut settings.lengthLimit mask)) ∨
        isSensitive settings.redactKeys key = false ∧
          ∃ v, normalizeValue settings.lengthLimit e.2 = .ok v ∧ w = some (key, v)) := by
  cases hnull : e.2.isNull with
  | true =>
      rw [write?, if_pos hnull] at h
      exact .inl ⟨rfl, (Except.ok.inj h).symm⟩
  | false =>
      right
      cases hkey : e.1.display with
      | error fault =>
          rw [write?_of_untold hnull hkey] at h
          cases h
      | ok key =>
          refine ⟨key, rfl, rfl, ?_⟩
          cases hsensitive : isSensitive settings.redactKeys key with
          | true =>
              rw [write?_of_isSensitive hnull hkey hsensitive] at h
              exact .inl ⟨rfl, (Except.ok.inj h).symm⟩
          | false =>
              rw [write?_of_open hnull hkey hsensitive] at h
              cases hv : normalizeValue settings.lengthLimit e.2 with
              | error fault =>
                  rw [hv] at h
                  cases h
              | ok v =>
                  rw [hv] at h
                  exact .inr ⟨rfl, v, rfl, (Except.ok.inj h).symm⟩

theorem key_of_write? {a : String × Value} (h : write? settings e = .ok (some a)) :
    e.1.display = .ok a.1 := by
  rcases write?_cases h with ⟨-, hw⟩ | ⟨key, -, hkey, ⟨-, hw⟩ | ⟨-, v, -, hw⟩⟩
  · cases hw
  · cases hw
    exact hkey
  · cases hw
    exact hkey

theorem addEntry_eq_write? (settings : Settings) (attrs : Attributes) (e : Value × Value) :
    addEntry settings attrs e =
      (write? settings e).map fun w => putAll attrs w.toList := by
  unfold addEntry write?
  split
  · rfl
  · cases e.1.display with
    | error fault => rfl
    | ok key =>
        simp only [bind, Except.bind]
        split
        · rfl
        · cases normalizeValue settings.lengthLimit e.2 <;> rfl

end Writes

/-- Normalization works out all writes first and carries them out afterwards. -/
theorem normalizeAll_eq_mapM (settings : Settings) (entries : List (Value × Value)) :
    normalizeAll settings entries =
      (entries.mapM (write? settings)).map fun ws => putAll [] ws.reduceOption := by
  unfold normalizeAll
  generalize ([] : Attributes) = acc
  induction entries generalizing acc with
  | nil => rfl
  | cons e rest ih =>
      rw [List.foldlM_cons, List.mapM_cons, addEntry_eq_write?]
      cases write? settings e with
      | error f => rfl
      | ok w =>
          refine (ih (putAll acc w.toList)).trans ?_
          cases rest.mapM (write? settings) with
          | error f => rfl
          | ok ws =>
              cases w with
              | none => rfl
              | some a =>
                  rfl

theorem mapM_eq_ok_iff {α β ε : Type} {f : α → Except ε β} {xs : List α} {ys : List β} :
    xs.mapM f = .ok ys ↔ List.Forall₂ (fun x y => f x = .ok y) xs ys := by
  induction xs generalizing ys with
  | nil =>
      rw [List.mapM_nil]
      constructor
      · intro h
        obtain rfl := Except.ok.inj h
        exact .nil
      · intro h
        cases h
        rfl
  | cons x xs ih =>
      rw [List.mapM_cons, List.forall₂_cons_left_iff]
      constructor
      · intro h
        cases hx : f x with
        | error e => rw [hx] at h; cases h
        | ok y =>
            cases hxs : xs.mapM f with
            | error e => rw [hx, hxs] at h; cases h
            | ok rest =>
                rw [hx, hxs] at h
                exact ⟨y, rest, rfl, ih.1 hxs, (Except.ok.inj h).symm⟩
      · rintro ⟨y, rest, hx, hrest, rfl⟩
        rw [hx, ih.2 hrest]
        rfl

theorem exists_mapM_eq_ok_iff {α β ε : Type} {f : α → Except ε β} {xs : List α} :
    (∃ ys, xs.mapM f = .ok ys) ↔ ∀ x ∈ xs, ∃ y, f x = .ok y := by
  simp only [mapM_eq_ok_iff]
  induction xs with
  | nil => exact ⟨fun _ x hx => absurd hx List.not_mem_nil, fun _ => ⟨[], .nil⟩⟩
  | cons x xs ih =>
      rw [List.forall_mem_cons, ← ih]
      constructor
      · rintro ⟨_, h⟩
        cases h with
        | cons hx hxs => exact ⟨⟨_, hx⟩, _, hxs⟩
      · rintro ⟨⟨y, hy⟩, ys, hys⟩
        exact ⟨y :: ys, .cons hy hys⟩

theorem exists_of_mem_right {α β : Type} {R : α → β → Prop} {xs : List α} {ys : List β} {y : β}
    (h : List.Forall₂ R xs ys) (hy : y ∈ ys) : ∃ x ∈ xs, R x y := by
  induction h with
  | nil => cases hy
  | @cons x z xs ys hxz _ ih =>
      rcases List.mem_cons.1 hy with rfl | hy
      · exact ⟨x, List.mem_cons_self, hxz⟩
      · obtain ⟨w, hw, hwy⟩ := ih hy
        exact ⟨w, List.mem_cons_of_mem _ hw, hwy⟩

theorem mapM_congr_forall₂ {α β ε : Type} {f : α → Except ε β} {xs ys : List α}
    (h : List.Forall₂ (fun x y => f x = f y) xs ys) : xs.mapM f = ys.mapM f := by
  induction h with
  | nil => rfl
  | cons hxy _ ih => rw [List.mapM_cons, List.mapM_cons, hxy, ih]

/-- Steps that never fail do not count for a failure. -/
theorem mapM_eq_error_iff_filter {α β ε : Type} {f : α → Except ε β} {p : α → Bool} {e : ε}
    {xs : List α} (h : ∀ x, p x = false → ∃ y, f x = .ok y) :
    xs.mapM f = .error e ↔ (xs.filter p).mapM f = .error e := by
  have hbind : ∀ (y : β) (m : Except ε (List β)),
      (do let ys ← m; pure (y :: ys)) = .error e ↔ m = .error e := by
    intro y m
    cases m with
    | error e' => exact Iff.rfl
    | ok ys => exact ⟨fun h => (by cases h), fun h => (by cases h)⟩
  induction xs with
  | nil => exact Iff.rfl
  | cons x xs ih =>
      cases hx : p x with
      | false =>
          obtain ⟨y, hy⟩ := h x hx
          rw [List.filter_cons_of_neg (by simp [hx]), List.mapM_cons, hy]
          exact (hbind y _).trans ih
      | true =>
          rw [List.filter_cons_of_pos hx, List.mapM_cons, List.mapM_cons]
          cases f x with
          | error e' => exact Iff.rfl
          | ok y => exact ((hbind y _).trans ih).trans (hbind y _).symm

theorem normalizeAll_eq_ok_iff {entries : List (Value × Value)} :
    normalizeAll settings entries = .ok attrs ↔
      ∃ ws, List.Forall₂ (fun e w => write? settings e = .ok w) entries ws ∧
        attrs = putAll [] ws.reduceOption := by
  rw [normalizeAll_eq_mapM]
  constructor
  · intro h
    cases hws : entries.mapM (write? settings) with
    | error f => rw [hws] at h; cases h
    | ok ws =>
        rw [hws] at h
        exact ⟨ws, mapM_eq_ok_iff.1 hws, (Except.ok.inj h).symm⟩
  · rintro ⟨ws, hws, rfl⟩
    rw [mapM_eq_ok_iff.2 hws]
    rfl

theorem exists_write_of_mem {entries : List (Value × Value)} {a : String × Value}
    (h : normalizeAll settings entries = .ok attrs) (ha : a ∈ attrs) :
    ∃ e ∈ entries, write? settings e = .ok (some a) := by
  obtain ⟨ws, hws, rfl⟩ := normalizeAll_eq_ok_iff.1 h
  rcases mem_putAll ha with ha | ha
  · cases ha
  · obtain ⟨e, he, hwrite⟩ := exists_of_mem_right hws (List.reduceOption_mem_iff.1 ha)
    exact ⟨e, he, hwrite⟩

theorem nodup_keys_normalizeAll {entries : List (Value × Value)}
    (h : normalizeAll settings entries = .ok attrs) : (attrs.map Prod.fst).Nodup := by
  obtain ⟨ws, -, rfl⟩ := normalizeAll_eq_ok_iff.1 h
  exact nodup_keys_putAll List.nodup_nil

theorem keys_sublist_of_writes {entries : List (Value × Value)}
    {ws : List (Option (String × Value))}
    (h : List.Forall₂ (fun e w => write? settings e = .ok w) entries ws) :
    (ws.reduceOption.map fun a => Except.ok a.1).Sublist (entries.map (·.1.display)) := by
  induction h with
  | nil => exact .slnil
  | @cons e w entries ws hw _ ih =>
      cases w with
      | none => exact ih.cons _
      | some a =>
          rw [List.reduceOption_cons_of_some, List.map_cons, List.map_cons, key_of_write? hw]
          exact ih.cons_cons _

theorem nodup_keys_of_writes {entries : List (Value × Value)}
    {ws : List (Option (String × Value))} (htexts : (entries.map (·.1.display)).Nodup)
    (h : List.Forall₂ (fun e w => write? settings e = .ok w) entries ws) :
    (ws.reduceOption.map Prod.fst).Nodup := by
  have hkeys := htexts.sublist (keys_sublist_of_writes h)
  have hmap : (ws.reduceOption.map fun a => (Except.ok a.1 : Except Fault String)) =
      (ws.reduceOption.map Prod.fst).map Except.ok := by rw [List.map_map]; rfl
  rw [hmap] at hkeys
  exact List.Nodup.of_map Except.ok hkeys

/-- Under texts that are all different, the order of the facts decides about nothing but the order
of the attributes. -/
theorem normalizeAll_of_perm {entries others : List (Value × Value)}
    (hperm : others.Perm entries) (htexts : (entries.map (·.1.display)).Nodup)
    (h : normalizeAll settings entries = .ok attrs) :
    ∃ reordered, normalizeAll settings others = .ok reordered ∧ reordered.Perm attrs := by
  obtain ⟨ws, hws, rfl⟩ := normalizeAll_eq_ok_iff.1 h
  obtain ⟨vs, hvs, hvsperm⟩ := List.perm_comp_forall₂ hperm hws
  have hwrites : vs.reduceOption.Perm ws.reduceOption := hvsperm.filterMap id
  have hws' : (ws.reduceOption.map Prod.fst).Nodup := nodup_keys_of_writes htexts hws
  have hvs' : (vs.reduceOption.map Prod.fst).Nodup :=
    (hwrites.map Prod.fst).nodup_iff.2 hws'
  refine ⟨vs.reduceOption, normalizeAll_eq_ok_iff.2 ⟨vs, hvs, ?_⟩, ?_⟩
  · exact (putAll_nil_of_nodup hvs').symm
  · rw [putAll_nil_of_nodup hws']
    exact hwrites

theorem length_normalizeAll_le {entries : List (Value × Value)}
    (h : normalizeAll settings entries = .ok attrs) : attrs.length ≤ entries.length := by
  obtain ⟨ws, hws, rfl⟩ := normalizeAll_eq_ok_iff.1 h
  have hput := length_putAll_le [] ws.reduceOption
  have hreduce := List.reduceOption_length_le ws
  have hlength := hws.length_eq
  rw [List.length_nil] at hput
  omega

/-- Facts that write the same are told apart neither by what is kept, nor by what is logged, nor by
a failure. -/
theorem normalize_congr {xs ys : List (Value × Value)}
    (h : List.Forall₂ (fun x y => write? settings x = write? settings y) xs ys) :
    normalize settings xs = normalize settings ys := by
  have hall : normalizeAll settings xs = normalizeAll settings ys := by
    rw [normalizeAll_eq_mapM, normalizeAll_eq_mapM, mapM_congr_forall₂ h]
  have hempty : xs.isEmpty = ys.isEmpty := by cases h <;> rfl
  rw [normalize, normalize, hall, hempty]

theorem normalize_eq_error_iff {entries : List (Value × Value)} {f : Fault} :
    normalize settings entries = .error f ↔ entries.mapM (write? settings) = .error f := by
  cases entries with
  | nil => exact ⟨fun h => (by cases h), fun h => (by cases h)⟩
  | cons e rest =>
      rw [normalize, if_neg (by simp), normalizeAll_eq_mapM]
      cases (e :: rest).mapM (write? settings) with
      | error g => exact ⟨fun h => (by cases h; rfl), fun h => (by cases h; rfl)⟩
      | ok ws => exact ⟨fun h => (by cases h), fun h => (by cases h)⟩

theorem exists_normalize_iff {entries : List (Value × Value)} :
    (∃ out, normalize settings entries = .ok out) ↔
      ∀ e ∈ entries, ∃ w, write? settings e = .ok w := by
  rw [← exists_mapM_eq_ok_iff]
  cases hnormal : normalize settings entries with
  | error f =>
      rw [normalize_eq_error_iff.1 hnormal]
      exact ⟨fun ⟨_, h⟩ => (by cases h), fun ⟨_, h⟩ => (by cases h)⟩
  | ok out =>
      refine ⟨fun _ => ?_, fun _ => ⟨out, rfl⟩⟩
      cases hws : entries.mapM (write? settings) with
      | error f =>
          rw [normalize_eq_error_iff.2 hws] at hnormal
          cases hnormal
      | ok ws => exact ⟨ws, rfl⟩

/-- Attributes as facts, each under the text of its key. -/
def facts (attrs : Attributes) : List (Value × Value) := attrs.map fun a => (.text a.1, a.2)

/-- Attributes under different keys that would be written as they stand are their own normal
form. -/
theorem normalizeAll_facts (hkeys : (attrs.map Prod.fst).Nodup)
    (h : ∀ a ∈ attrs, write? settings (.text a.1, a.2) = .ok (some a)) :
    normalizeAll settings (facts attrs) = .ok attrs := by
  refine normalizeAll_eq_ok_iff.2 ⟨attrs.map some, ?_, ?_⟩
  · rw [facts, List.forall₂_map_left_iff, List.forall₂_map_right_iff, List.forall₂_same]
    exact h
  · have hwrites : (attrs.map some).reduceOption = attrs := by
      rw [List.reduceOption, List.filterMap_map]
      exact List.filterMap_some
    rw [hwrites]
    exact (putAll_nil_of_nodup hkeys).symm

end CommandTelemetry.Attribute
