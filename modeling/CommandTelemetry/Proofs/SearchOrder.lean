import Mathlib
import CommandTelemetry.Failure.Search

/-!
# The search finds the first wanted failure of the preorder

The search keeps a stack. It may put a failure on it that is waiting there already, or that it has
visited, and it asks whether it has seen a failure only when it takes it off again. What one wants
to know about it is said without a stack: the failures that a failure leads to have an order, the
failure itself first, then its members with all that they lead to, then what explains it, none of
them twice, and the search finds the first wanted one of that order.

The two are joined by one law, `searchFrom_append`. Searching a stack whose upper part is `is`
comes to the same as looking through the order of `is` and then searching the lower part, with all
of that order counted as seen. The law holds for every lower part, which is what makes the
induction go through: the links of a failure are put on top of everything that still waits.

That the order holds exactly what a failure leads to is the usual argument about a set that is
closed under links. A link may lead beyond the nodes; such a link leads to no failure.
-/

namespace CommandTelemetry.Failure

open Relation

/-- One failure is linked to another. The failure that was being handled counts only where there
is no cause and it is not suppressed. -/
inductive Linked (nodes : List Node) (i j : Nat) : Prop where
  | member {n : Node} {members : List Nat} (hn : nodes[i]? = some n)
      (hs : n.shape = .group members) (hj : j ∈ members)
  | cause {n : Node} (hn : nodes[i]? = some n) (hj : n.cause = some j)
  | context {n : Node} (hn : nodes[i]? = some n) (hc : n.cause = none)
      (hs : n.suppressContext = false) (hj : n.context = some j)

/-- A failure leads to another through any number of links. -/
def LeadsTo (f : Failure) (i : Nat) : Prop := ReflTransGen (Linked f.nodes) f.root i

theorem mem_members_iff {n : Node} {j : Nat} :
    j ∈ n.members ↔ ∃ members, n.shape = .group members ∧ j ∈ members := by
  unfold Node.members
  cases hs : n.shape <;> simp

theorem mem_origin_iff {n : Node} {j : Nat} :
    j ∈ n.origin.toList ↔ n.cause = some j ∨
      (n.cause = none ∧ n.suppressContext = false ∧ n.context = some j) := by
  unfold Node.origin
  cases hc : n.cause with
  | some i => simpa using eq_comm
  | none => cases hs : n.suppressContext <;> simp

theorem linked_iff {nodes : List Node} {i j : Nat} :
    Linked nodes i j ↔ ∃ n, nodes[i]? = some n ∧ j ∈ n.members ++ n.origin.toList := by
  simp only [List.mem_append, mem_members_iff, mem_origin_iff]
  constructor
  · rintro (⟨hn, hs, hj⟩ | ⟨hn, hj⟩ | ⟨hn, hc, hs, hj⟩)
    · exact ⟨_, hn, Or.inl ⟨_, hs, hj⟩⟩
    · exact ⟨_, hn, Or.inr (Or.inl hj)⟩
    · exact ⟨_, hn, Or.inr (Or.inr ⟨hc, hs, hj⟩)⟩
  · rintro ⟨n, hn, ⟨members, hs, hj⟩ | hj | ⟨hc, hs, hj⟩⟩
    · exact .member hn hs hj
    · exact .cause hn hj
    · exact .context hn hc hs hj

/-! ## The order -/

theorem unvisited_append_le (size : Nat) (more seen : List Nat) :
    unvisited size (more ++ seen) ≤ unvisited size seen := by
  unfold unvisited
  refine List.Sublist.length_le (List.monotone_filter_right _ fun i hi => ?_)
  simp only [List.contains_eq_mem, List.mem_append, Bool.not_eq_true',
    decide_eq_false_iff_not] at hi ⊢
  exact fun h => hi (Or.inr h)

/-- The failures that come up when those listed are visited in turn, each followed by its members
and then by what explains it, with all that these lead to. What was seen before, in this walk too,
does not come up. -/
def visits (nodes : List Node) (seen : List Nat) : List Nat → List Nat
  | [] => []
  | i :: rest =>
    if _hs : seen.contains i then visits nodes seen rest
    else
      match _hn : nodes[i]? with
      | none => visits nodes seen rest
      | some n =>
        let below := visits nodes (i :: seen) (n.members ++ n.origin.toList)
        i :: below ++ visits nodes (below.reverse ++ i :: seen) rest
termination_by is => (unvisited nodes.length seen, is.length)
decreasing_by
  · exact Prod.Lex.right _ (by simp)
  · exact Prod.Lex.right _ (by simp)
  · exact Prod.Lex.left _ _
      (unvisited_cons_lt (List.getElem?_eq_some_iff.1 _hn).1 (by simpa using _hs))
  · exact Prod.Lex.left _ _
      (Nat.lt_of_le_of_lt (unvisited_append_le _ _ _)
        (unvisited_cons_lt (List.getElem?_eq_some_iff.1 _hn).1 (by simpa using _hs)))

/-- The failures that a failure leads to, in preorder. -/
def searchOrder (f : Failure) : List Nat := visits f.nodes [] [f.root]

/-- There is a wanted node at an index. -/
def wantedAt (nodes : List Node) (wanted : Node → Bool) (i : Nat) : Bool :=
  (nodes[i]?).any wanted

/-! ## The stack and the order -/

variable {nodes : List Node} {wanted : Node → Bool}

theorem searchFrom_of_none {i : Nat} {seen : List Nat} (hs : ¬seen.contains i = true)
    (hn : nodes[i]? = none) (stack : List Nat) :
    searchFrom nodes wanted seen (i :: stack) = searchFrom nodes wanted seen stack := by
  rw [searchFrom, dif_neg hs]
  split
  · rfl
  · next n hn' => rw [hn] at hn'; cases hn'

theorem searchFrom_of_some {i : Nat} {seen : List Nat} {n : Node}
    (hs : ¬seen.contains i = true) (hn : nodes[i]? = some n) (stack : List Nat) :
    searchFrom nodes wanted seen (i :: stack) =
      if wanted n then some i else searchFrom nodes wanted (i :: seen) (n.links ++ stack) := by
  rw [searchFrom, dif_neg hs]
  split
  · next hn' => rw [hn] at hn'; cases hn'
  · next m hm =>
      obtain rfl : n = m := by rw [hn] at hm; exact Option.some.inj hm
      rfl

/-- Searching the upper part of a stack is looking through its order. -/
theorem searchFrom_append (seen is stack : List Nat) :
    searchFrom nodes wanted seen (is ++ stack) =
      ((visits nodes seen is).find? (wantedAt nodes wanted)).or
        (searchFrom nodes wanted ((visits nodes seen is).reverse ++ seen) stack) := by
  fun_induction visits nodes seen is generalizing stack with
  | case1 seen => simp
  | case2 seen i rest hs ih =>
      rw [List.cons_append, searchFrom, dif_pos hs]
      exact ih stack
  | case3 seen i rest hs hn ih =>
      rw [List.cons_append, searchFrom_of_none hs hn]
      exact ih stack
  | case4 seen i rest hs n hn below ih₁ ih₂ =>
      have hat : wantedAt nodes wanted i = wanted n := by simp [wantedAt, hn]
      rw [List.cons_append, searchFrom_of_some hs hn]
      by_cases hw : wanted n = true
      · rw [if_pos hw, List.cons_append, List.find?_cons_of_pos (by rw [hat, hw])]
        rfl
      · rw [if_neg hw, List.cons_append, List.find?_cons_of_neg (by rw [hat]; exact hw),
          List.find?_append, Option.or_assoc, Node.links, ih₁ (rest ++ stack), ih₂ stack]
        simp [below]

theorem find?_eq_find?_searchOrder (f : Failure) (wanted : Node → Bool) :
    f.find? wanted = f.searchOrder.find? (wantedAt f.nodes wanted) := by
  have h : searchFrom f.nodes wanted [] ([f.root] ++ []) = _ := searchFrom_append [] [f.root] []
  rw [List.append_nil] at h
  rw [find?, h, searchFrom, Option.or_none, searchOrder]

/-! ## What the order holds -/

theorem visits_fresh {seen is : List Nat} {j : Nat} (h : j ∈ visits nodes seen is) :
    j ∉ seen ∧ j < nodes.length := by
  fun_induction visits nodes seen is with
  | case1 seen => cases h
  | case2 seen i rest hs ih => exact ih h
  | case3 seen i rest hs hn ih => exact ih h
  | case4 seen i rest hs n hn below ih₁ ih₂ =>
      rcases List.mem_append.1 h with h | h
      · rcases List.mem_cons.1 h with rfl | h
        · exact ⟨by simpa using hs, (List.getElem?_eq_some_iff.1 hn).1⟩
        · obtain ⟨hseen, hlt⟩ := ih₁ h
          exact ⟨fun hj => hseen (List.mem_cons_of_mem _ hj), hlt⟩
      · obtain ⟨hseen, hlt⟩ := ih₂ h
        exact ⟨fun hj => hseen (by simp [hj]), hlt⟩

theorem visits_nodup (seen is : List Nat) : (visits nodes seen is).Nodup := by
  fun_induction visits nodes seen is with
  | case1 seen => exact List.nodup_nil
  | case2 seen i rest hs ih => exact ih
  | case3 seen i rest hs hn ih => exact ih
  | case4 seen i rest hs n hn below ih₁ ih₂ =>
      have hi : i ∉ below := fun h => (visits_fresh h).1 (by simp)
      refine List.Nodup.append (List.nodup_cons.2 ⟨hi, ih₁⟩) ih₂ fun j hj hj' => ?_
      refine (visits_fresh hj').1 ?_
      rcases List.mem_cons.1 hj with rfl | hj
      · simp
      · simp [hj]

theorem visits_reach {seen is : List Nat} {j : Nat} (h : j ∈ visits nodes seen is) :
    ∃ i ∈ is, ReflTransGen (Linked nodes) i j := by
  fun_induction visits nodes seen is with
  | case1 seen => cases h
  | case2 seen i rest hs ih =>
      obtain ⟨k, hk, hkj⟩ := ih h
      exact ⟨k, List.mem_cons_of_mem _ hk, hkj⟩
  | case3 seen i rest hs hn ih =>
      obtain ⟨k, hk, hkj⟩ := ih h
      exact ⟨k, List.mem_cons_of_mem _ hk, hkj⟩
  | case4 seen i rest hs n hn below ih₁ ih₂ =>
      rcases List.mem_append.1 h with h | h
      · rcases List.mem_cons.1 h with rfl | h
        · exact ⟨j, by simp, .refl⟩
        · obtain ⟨k, hk, hkj⟩ := ih₁ h
          exact ⟨i, by simp, .head (linked_iff.2 ⟨n, hn, hk⟩) hkj⟩
      · obtain ⟨k, hk, hkj⟩ := ih₂ h
        exact ⟨k, List.mem_cons_of_mem _ hk, hkj⟩

/-- What is listed was seen before or comes up. -/
theorem mem_visits_of_mem (seen : List Nat) {is : List Nat} {j : Nat} (hj : j ∈ is)
    (hlt : j < nodes.length) : j ∈ visits nodes seen is ++ seen := by
  fun_induction visits nodes seen is with
  | case1 seen => cases hj
  | case2 seen i rest hs ih =>
      rcases List.mem_cons.1 hj with rfl | hj
      · exact List.mem_append_right _ (by simpa using hs)
      · exact ih hj
  | case3 seen i rest hs hn ih =>
      rcases List.mem_cons.1 hj with rfl | hj
      · exact absurd (List.getElem?_eq_none_iff.1 hn) (by omega)
      · exact ih hj
  | case4 seen i rest hs n hn below ih₁ ih₂ =>
      rcases List.mem_cons.1 hj with rfl | hj
      · simp
      · have := ih₂ hj
        simp only [List.mem_append, List.mem_reverse, List.mem_cons] at this ⊢
        tauto

/-- What comes up is linked only to what was seen before or comes up as well. -/
theorem visits_closed {seen is : List Nat} {i j : Nat} (hi : i ∈ visits nodes seen is)
    (hlink : Linked nodes i j) (hlt : j < nodes.length) : j ∈ visits nodes seen is ++ seen := by
  fun_induction visits nodes seen is with
  | case1 seen => cases hi
  | case2 seen k rest hs ih => exact ih hi
  | case3 seen k rest hs hn ih => exact ih hi
  | case4 seen k rest hs n hn below ih₁ ih₂ =>
      have hbelow : j ∈ below ++ k :: seen →
          j ∈ k :: below ++ visits nodes (below.reverse ++ k :: seen) rest ++ seen := by
        simp only [List.mem_append, List.mem_cons]
        tauto
      rcases List.mem_append.1 hi with hi | hi
      · rcases List.mem_cons.1 hi with rfl | hi
        · obtain ⟨m, hm, hj⟩ := linked_iff.1 hlink
          obtain rfl : n = m := by rw [hn] at hm; exact Option.some.inj hm
          exact hbelow (mem_visits_of_mem _ hj hlt)
        · exact hbelow (ih₁ hi)
      · have := ih₂ hi
        simp only [List.mem_append, List.mem_reverse, List.mem_cons] at this ⊢
        tauto

theorem lt_of_linked {i j : Nat} (h : Linked nodes i j) : i < nodes.length := by
  obtain ⟨n, hn, -⟩ := linked_iff.1 h
  exact (List.getElem?_eq_some_iff.1 hn).1

/-- The order holds what a failure leads to. -/
theorem mem_searchOrder_iff {f : Failure} {i : Nat} :
    i ∈ f.searchOrder ↔ i < f.nodes.length ∧ f.LeadsTo i := by
  unfold searchOrder
  constructor
  · intro h
    obtain ⟨k, hk, hki⟩ := visits_reach h
    obtain rfl := List.mem_singleton.1 hk
    exact ⟨(visits_fresh h).2, hki⟩
  · rintro ⟨hlt, hlead⟩
    induction hlead with
    | refl =>
        have h := mem_visits_of_mem [] (List.mem_singleton_self f.root) hlt
        rwa [List.append_nil] at h
    | tail hprev hlink ih =>
        have h := visits_closed (ih (lt_of_linked hlink)) hlink hlt
        rwa [List.append_nil] at h

theorem wantedAt_iff {i : Nat} :
    wantedAt nodes wanted i = true ↔ ∃ n, nodes[i]? = some n ∧ wanted n = true := by
  rw [wantedAt, Option.any_eq_true]

/-- What the search finds is wanted. -/
theorem wanted_of_findNode? {f : Failure} {n : Node} (h : f.findNode? wanted = some n) :
    wanted n = true := by
  obtain ⟨i, hi, hn⟩ := Option.bind_eq_some_iff.1 h
  rw [find?_eq_find?_searchOrder] at hi
  obtain ⟨m, hm, hw⟩ := wantedAt_iff.1 (List.find?_some hi)
  rw [hm] at hn
  rwa [← Option.some.inj hn]

theorem find?_isSome_iff {f : Failure} :
    (f.find? wanted).isSome ↔
      ∃ i n, f.LeadsTo i ∧ f.nodes[i]? = some n ∧ wanted n = true := by
  rw [find?_eq_find?_searchOrder, List.find?_isSome]
  constructor
  · rintro ⟨i, hi, hw⟩
    obtain ⟨n, hn, hwn⟩ := wantedAt_iff.1 hw
    exact ⟨i, n, (mem_searchOrder_iff.1 hi).2, hn, hwn⟩
  · rintro ⟨i, n, hlead, hn, hw⟩
    have hlt := (List.getElem?_eq_some_iff.1 hn).1
    exact ⟨i, mem_searchOrder_iff.2 ⟨hlt, hlead⟩, wantedAt_iff.2 ⟨n, hn, hw⟩⟩

theorem findNode?_isSome_iff {f : Failure} :
    (f.findNode? wanted).isSome ↔
      ∃ i n, f.LeadsTo i ∧ f.nodes[i]? = some n ∧ wanted n = true := by
  rw [← find?_isSome_iff]
  cases hi : f.find? wanted with
  | none => simp [findNode?, hi]
  | some i =>
      have hw := hi
      rw [find?_eq_find?_searchOrder] at hw
      obtain ⟨n, hn, -⟩ := wantedAt_iff.1 (List.find?_some hw)
      simp [findNode?, hi, hn]

/-- The search finds the first wanted failure of the preorder, which lists what a failure leads to
and nothing twice. So it finds one exactly if the failure leads to one. -/
theorem find?_is_first_in_searchOrder (f : Failure) (wanted : Node → Bool) :
    f.find? wanted = f.searchOrder.find? (wantedAt f.nodes wanted) ∧
      f.searchOrder.Nodup ∧
      (∀ i, i ∈ f.searchOrder ↔ i < f.nodes.length ∧ f.LeadsTo i) ∧
      ((f.find? wanted).isSome ↔
        ∃ i n, f.LeadsTo i ∧ f.nodes[i]? = some n ∧ wanted n = true) := by
  exact ⟨find?_eq_find?_searchOrder f wanted, visits_nodup _ _, fun i => mem_searchOrder_iff,
    find?_isSome_iff⟩

/-- A group that is a member of itself. Its other member also explains its cause. -/
example : searchOrder ⟨[{ Node.group true "" [0, 2] with cause := some 1 },
    { Node.general "OSError" "" with cause := some 2 }, Node.general "OSError" ""], 0⟩ =
    [0, 2, 1] := by cbv

end CommandTelemetry.Failure
