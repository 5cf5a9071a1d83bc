import Mathlib.Data.List.Perm.Basic
import CommandTelemetry.Proofs.AttributeWrites
import CommandTelemetry.Session.Usage

/-!
# What usage holds

Usage comes from facts that are recorded one after the other. Among facts under one name the first
decides on the place and the last on the value. This is put down as a recursion on the facts in
`firstAndLast`, which takes out all facts under the first name at once, where recording them takes
one at a time and goes through the names that are there already.

Nothing is assumed of how names are compared. So it is right for names of any kind, of which numbers
and truth values may be equal, and a number that is not one is equal to nothing.
-/

namespace CommandTelemetry.Usage

open Attribute

section FirstAndLast

variable {α β : Type} {like : α → α → Bool}

def unlike (like : α → α → Bool) (a : α) (items : List α) : List α :=
  items.filter fun b => !like a b

/-- Each element that comes first among those like it, together with the last one of them. -/
def firstAndLast (like : α → α → Bool) : List α → List (α × α)
  | [] => []
  | a :: later =>
    (a, (later.filter (like a)).getLast?.getD a) :: firstAndLast like (unlike like a later)
termination_by items => items.length
decreasing_by exact Nat.lt_succ_of_le (List.length_filter_le _ _)

theorem firstAndLast_nil (like : α → α → Bool) : firstAndLast like [] = [] := by
  rw [firstAndLast]

theorem firstAndLast_map (f : β → α) (items : List β) :
    firstAndLast like (items.map f) =
      (firstAndLast (fun a b => like (f a) (f b)) items).map (Prod.map f f) := by
  fun_induction firstAndLast (fun a b => like (f a) (f b)) items with
  | case1 => exact firstAndLast_nil like
  | case2 a later ih =>
      have hunlike : unlike like (f a) (later.map f) =
          (unlike (fun a b => like (f a) (f b)) a later).map f := List.filter_map
      rw [List.map_cons, List.map_cons, firstAndLast, hunlike, ih, List.filter_map,
        List.getLast?_map, Option.getD_map]
      rfl

/-- Where elements of two classes are never alike, each class is on its own. -/
theorem filter_firstAndLast (p : α → Bool) {items : List α}
    (h : ∀ a ∈ items, ∀ b ∈ items, p a ≠ p b → like a b = false) :
    (firstAndLast like items).filter (fun e => p e.1) = firstAndLast like (items.filter p) := by
  fun_induction firstAndLast like items with
  | case1 => exact (firstAndLast_nil like).symm
  | case2 a later ih =>
      have hrest := ih fun b hb c hc => h b (List.mem_cons_of_mem _ (List.mem_of_mem_filter hb)) c
        (List.mem_cons_of_mem _ (List.mem_of_mem_filter hc))
      have happart : ∀ b ∈ later, p a ≠ p b → like a b = false := fun b hb =>
        h a List.mem_cons_self b (List.mem_cons_of_mem _ hb)
      rw [unlike, List.filter_filter] at hrest
      cases ha : p a with
      | true =>
          have hlike : later.filter (like a) = (later.filter p).filter (like a) := by
            rw [List.filter_filter]
            refine List.filter_congr fun b hb => ?_
            cases hb' : p b with
            | true => rw [Bool.and_true]
            | false => rw [happart b hb (by rw [ha, hb']; decide), Bool.false_and]
          have hunlike : later.filter (fun b => p b && !like a b) =
              unlike like a (later.filter p) := by
            rw [unlike, List.filter_filter]
            exact List.filter_congr fun b _ => Bool.and_comm ..
          rw [List.filter_cons, if_pos ha, List.filter_cons, if_pos ha, firstAndLast, unlike, hrest,
            hlike, hunlike]
      | false =>
          have hunlike : later.filter (fun b => p b && !like a b) = later.filter p := by
            refine List.filter_congr fun b hb => ?_
            cases hb' : p b with
            | true => rw [happart b hb (by rw [ha, hb']; decide), Bool.not_false, Bool.and_true]
            | false => rw [Bool.false_and]
          have hnot : ¬p a = true := Bool.eq_false_iff.1 ha
          rw [List.filter_cons, if_neg hnot, List.filter_cons, if_neg hnot, unlike, hrest, hunlike]

end FirstAndLast

/-! ## Facts that are recorded in order -/

variable {u : Usage} {writes : List (Value × Value)}

/-- Facts under one name. -/
def sameName (a b : Value × Value) : Bool := a.1.same b.1

/-- The usage that some facts make, beginning with none: each name once, where it first comes up,
with the value that was last given to it. -/
def ofWrites (writes : List (Value × Value)) : Usage :=
  (firstAndLast sameName writes).map fun e => (e.1.1, e.2.2)

theorem ofWrites_nil : ofWrites [] = [] := by
  rw [ofWrites, firstAndLast_nil, List.map_nil]

theorem update_append (u : Usage) (writes more : List (Value × Value)) :
    u.update (writes ++ more) = (u.update writes).update more := List.foldl_append

/-- The first name takes the facts that are recorded under it, and the others go past it. -/
theorem update_cons (w : Value × Value) (u : Usage) (writes : List (Value × Value)) :
    update (w :: u) writes =
      (w.1, ((writes.filter (sameName w)).getLast?.getD w).2) ::
        u.update (unlike sameName w writes) := by
  induction writes generalizing w u with
  | nil => rfl
  | cons v rest ih =>
      have hstep : update (w :: u) (v :: rest) = update (Value.insertEntry (w :: u) v.1 v.2) rest :=
        rfl
      rw [hstep, Value.insertEntry, ← sameName, unlike]
      cases hv : sameName w v with
      | true =>
          have hname : sameName (w.1, v.2) = sameName w := rfl
          rw [if_pos rfl, ih, hname, List.filter_cons_of_pos hv,
            List.filter_cons_of_neg (by simp [hv]), List.getLast?_cons, unlike, hname]
          cases (rest.filter (sameName w)).getLast? <;> rfl
      | false =>
          rw [if_neg Bool.false_ne_true, ih, List.filter_cons_of_neg (by simp [hv]),
            List.filter_cons_of_pos (by simp [hv])]
          rfl

theorem update_nil (writes : List (Value × Value)) : update [] writes = ofWrites writes := by
  unfold ofWrites
  fun_induction firstAndLast sameName writes with
  | case1 => rfl
  | case2 w later ih =>
      rw [List.map_cons, ← ih]
      exact update_cons w [] later

theorem update_ofWrites (writes more : List (Value × Value)) :
    (ofWrites writes).update more = ofWrites (writes ++ more) := by
  rw [← update_nil, ← update_nil, update_append]

/-! ## Facts under texts -/

theorem set_facts (attrs : Attributes) (k : String) (v : Value) :
    set (facts attrs) (.text k) v = facts (put attrs k v) := by
  induction attrs with
  | nil => rfl
  | cons e rest ih =>
      have hcons : facts (e :: rest) = (.text e.1, e.2) :: facts rest := rfl
      rw [hcons, set, Value.insertEntry, put, Value.same]
      by_cases hk : e.1 = k
      · rw [if_pos (beq_iff_eq.2 hk), if_pos hk, ← hk]
        rfl
      · rw [if_neg (by rwa [beq_iff_eq]), if_neg hk, ← set, ih]
        rfl

theorem update_facts (attrs writes : Attributes) :
    update (facts attrs) (facts writes) = facts (putAll attrs writes) := by
  induction writes generalizing attrs with
  | nil => rfl
  | cons w rest ih =>
      have hfirst : update (facts attrs) (facts (w :: rest)) =
          update (set (facts attrs) (.text w.1) w.2) (facts rest) := rfl
      rw [hfirst, set_facts, ih]
      rfl

theorem ofWrites_facts (writes : Attributes) :
    ofWrites (facts writes) = facts (putAll [] writes) := by
  rw [← update_nil]
  exact update_facts [] writes

/-! ## Facts of several clients -/

section Clients

variable {κ α : Type} [DecidableEq κ]

theorem perm_of_filter {xs ys : List α} (of : α → κ)
    (h : ∀ c, xs.filter (fun a => of a = c) = ys.filter fun a => of a = c) : xs.Perm ys := by
  classical
  refine List.perm_iff_count.2 fun a => ?_
  have hown : ∀ zs : List α, (zs.filter fun b => of b = of a).count a = zs.count a := fun zs =>
    List.count_filter (decide_eq_true rfl)
  rw [← hown xs, h (of a), hown ys]

/-- Each client records what it records in the same order. -/
def SamePrograms (xs ys : List (κ × (Value × Value))) : Prop :=
  ∀ c, xs.filter (fun w => w.1 = c) = ys.filter fun w => w.1 = c

/-- No two clients record under one name. -/
def DisjointNames (xs : List (κ × (Value × Value))) : Prop :=
  ∀ a ∈ xs, ∀ b ∈ xs, a.1 ≠ b.1 → sameName a.2 b.2 = false

variable {xs ys : List (κ × (Value × Value))}

theorem SamePrograms.mem (h : SamePrograms xs ys) {w : κ × (Value × Value)} (hw : w ∈ ys) :
    w ∈ xs := by
  have hown : w ∈ ys.filter (fun v => v.1 = w.1) := List.mem_filter.2 ⟨hw, decide_eq_true rfl⟩
  rw [← h w.1] at hown
  exact List.mem_of_mem_filter hown

/-- In whichever order clients with names of their own come to record, they make the same usage, but
for the places. -/
theorem ofWrites_perm (h : SamePrograms xs ys) (hnames : DisjointNames xs) :
    (ofWrites (xs.map Prod.snd)).Perm (ofWrites (ys.map Prod.snd)) := by
  have happart : ∀ zs : List (κ × (Value × Value)), (∀ w ∈ zs, w ∈ xs) → ∀ c,
      (firstAndLast (fun a b => sameName a.2 b.2) zs).filter (fun e => e.1.1 = c) =
        firstAndLast (fun a b => sameName a.2 b.2) (zs.filter fun w => w.1 = c) := by
    intro zs hzs c
    refine filter_firstAndLast (fun w : κ × (Value × Value) => decide (w.1 = c)) ?_
    exact fun a ha b hb hclass =>
      hnames a (hzs a ha) b (hzs b hb) fun heq => hclass (by rw [heq])
  have hperm : (firstAndLast (fun a b => sameName a.2 b.2) xs).Perm
      (firstAndLast (fun a b => sameName a.2 b.2) ys) := by
    refine perm_of_filter (fun e => e.1.1) fun c => ?_
    rw [happart xs (fun _ hw => hw) c, happart ys (fun _ => h.mem) c, h c]
  rw [ofWrites, ofWrites, firstAndLast_map, firstAndLast_map, List.map_map, List.map_map]
  exact hperm.map _

end Clients

end CommandTelemetry.Usage
