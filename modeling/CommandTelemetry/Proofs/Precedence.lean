import CommandTelemetry.Proofs.Classification

/-!
# The least category decides

Four searches classify a failure, one after the other, over one graph that may be cyclic. Together
they look for a minimum: the category of a failure is the least one of all failures that it leads
to, however far away these are, and of those of that category the first in the preorder says the
rest.

A minimum does not depend on the order in which it is looked for. So the category stays what it is
when the members of groups change places, and when failures that lead nowhere and are of no known
shape become members of groups, since both edits keep what can be reached.

What is found first does depend on the order, and here wrappers need an argument of their own. A
wrapper is of no known shape and leads to one failure only. The wrapped failure may lead back to its
wrapper, so the wrapper may have been visited before or may still come up, and the order of visits
differs. `searchFrom_of_wrapper` says why this is never noticed: by the time a wrapper comes up
again, the one failure that it leads to has been visited.
-/

namespace CommandTelemetry

namespace ErrorCategory

/-- The place of a category among all of them. -/
def rank (c : ErrorCategory) : Nat := all.idxOf c

theorem rank_injective : Function.Injective rank := by
  intro c d h
  have hall : ∀ c : ErrorCategory, c ∈ all := by
    intro c
    cases c <;> decide
  exact (List.idxOf_inj (hall c)).1 h

instance : LinearOrder ErrorCategory := LinearOrder.lift' rank rank_injective

/-- The categories of the known shapes, in their order. -/
def known : List ErrorCategory := [service, deployment, tool, auth]

theorem mem_known_iff {c : ErrorCategory} : c ∈ known ↔ c < unknown := by
  cases c <;> decide

theorem le_unknown (c : ErrorCategory) : c ≤ unknown := by
  cases c <;> decide

theorem known_sorted : known.Pairwise (· < ·) := by decide

end ErrorCategory

namespace Failure

open Label Relation

/-- The failures of a category. -/
def ofCategory (c : ErrorCategory) (n : Node) : Bool := n.shape.category = c

theorem ofCategory_iff {c : ErrorCategory} {n : Node} :
    ofCategory c n = true ↔ n.shape.category = c := decide_eq_true_iff

theorem isService_eq : Node.isService = ofCategory .service :=
  funext fun _ => Bool.eq_iff_iff.2 (isService_iff.trans ofCategory_iff.symm)

theorem isDeployment_eq : Node.isDeployment = ofCategory .deployment :=
  funext fun _ => Bool.eq_iff_iff.2 (isDeployment_iff.trans ofCategory_iff.symm)

theorem isTool_eq : Node.isTool = ofCategory .tool :=
  funext fun _ => Bool.eq_iff_iff.2 (isTool_iff.trans ofCategory_iff.symm)

theorem isAuth_eq : Node.isAuth = ofCategory .auth :=
  funext fun _ => Bool.eq_iff_iff.2 (isAuth_iff.trans ofCategory_iff.symm)

/-- The categories of all failures that a failure leads to, itself included. -/
def categories (f : Failure) : Set ErrorCategory :=
  { c | ∃ i n, f.LeadsTo i ∧ f.nodes[i]? = some n ∧ n.shape.category = c }

variable {f g : Failure} {c : ErrorCategory}

theorem findNode?_ofCategory_isSome_iff :
    (f.findNode? (ofCategory c)).isSome ↔ c ∈ f.categories := by
  rw [findNode?_isSome_iff]
  simp only [ofCategory_iff]
  rfl

/-! ## The minimum -/

theorem category_of_findNode? {n : Node} (h : f.findNode? (ofCategory c) = some n) :
    n.shape.category = c := ofCategory_iff.1 (wanted_of_findNode? h)

/-- The known categories are searched for in their order. -/
theorem decisiveShape_eq_findSome? (f : Failure) :
    f.decisiveShape =
      ((ErrorCategory.known.findSome? fun c => f.findNode? (ofCategory c)).map Node.shape).getD
        .plain := by
  unfold decisiveShape ErrorCategory.known
  rw [isService_eq, isDeployment_eq, isTool_eq, isAuth_eq]
  simp only [List.findSome?_cons, List.findSome?_nil]
  cases f.findNode? (ofCategory .service) with
  | some n => rfl
  | none =>
      cases f.findNode? (ofCategory .deployment) with
      | some n => rfl
      | none =>
          cases f.findNode? (ofCategory .tool) with
          | some n => rfl
          | none => cases f.findNode? (ofCategory .auth) <;> rfl

/-- The shape that decides is the first one found of its category, and no lesser category is found
at all. -/
theorem decisiveShape_spec (f : Failure) :
    (∀ d < f.decisiveShape.category, f.findNode? (ofCategory d) = none) ∧
      (f.decisiveShape.category ≠ .unknown →
        ∃ n, f.findNode? (ofCategory f.decisiveShape.category) = some n ∧
          f.decisiveShape = n.shape) := by
  rw [decisiveShape_eq_findSome?]
  cases hfirst : ErrorCategory.known.findSome? fun c => f.findNode? (ofCategory c) with
  | none =>
      refine ⟨fun d hd => ?_, fun hknown => absurd rfl hknown⟩
      exact List.findSome?_eq_none_iff.1 hfirst d (ErrorCategory.mem_known_iff.2 hd)
  | some n =>
      obtain ⟨before, c, after, hknown, hn, hbefore⟩ := List.findSome?_eq_some_iff.1 hfirst
      simp only [Option.map_some, Option.getD_some, category_of_findNode? hn]
      refine ⟨fun d hd => ?_, fun _ => ⟨n, hn, rfl⟩⟩
      have hsorted := ErrorCategory.known_sorted
      have hc : c ∈ ErrorCategory.known := hknown ▸ List.mem_append_right _ List.mem_cons_self
      have hmem : d ∈ ErrorCategory.known :=
        ErrorCategory.mem_known_iff.2 (hd.trans (ErrorCategory.mem_known_iff.1 hc))
      rw [hknown] at hmem hsorted
      obtain ⟨-, hafter, -⟩ := List.pairwise_append.1 hsorted
      rcases List.mem_append.1 hmem with hd' | hd'
      · exact hbefore d hd'
      · rcases List.mem_cons.1 hd' with rfl | hd'
        · exact absurd hd (lt_irrefl _)
        · exact absurd hd ((List.pairwise_cons.1 hafter).1 d hd').asymm

theorem ofShape_of_unknown (domains : List Domain) {shape : Shape}
    (h : shape.category = .unknown) : ofShape domains shape = unclassified := by
  cases shape with
  | group _ | fault _ | plain => rfl
  | service _ _ | deployment _ | tool _ _ | auth _ => cases h

theorem findNode?_eq_some_iff {wanted : Node → Bool} {n : Node} :
    f.findNode? wanted = some n ↔
      ∃ i, f.searchOrder.find? (wantedAt f.nodes wanted) = some i ∧ f.nodes[i]? = some n := by
  rw [findNode?, Option.bind_eq_some_iff, find?_eq_find?_searchOrder]

/-- A failure that is classified on its own is classified by its shape. -/
theorem classify_single (domains : List Domain) (n : Node) :
    (single n).classify domains = ofShape domains n.shape := by
  rw [classify_eq]
  by_cases hunknown : n.shape.category = .unknown
  · have hnone : (single n).decisiveShape.category = .unknown := by
      by_contra hknown
      obtain ⟨m, hm, -⟩ := (decisiveShape_spec (single n)).2 hknown
      obtain ⟨i, -, hi⟩ := Option.bind_eq_some_iff.1 hm
      obtain rfl := List.mem_singleton.1 (List.mem_of_getElem? hi)
      exact hknown ((category_of_findNode? hm).symm.trans hunknown)
    rw [ofShape_of_unknown domains hnone, ofShape_of_unknown domains hunknown]
  · rw [decisiveShape_of_only (n := n) rfl hunknown fun m hm => .inr (List.mem_singleton.1 hm)]

/-- Of the category that decides there is a failure, and the first one says what is classified. -/
theorem exists_decisive (domains : List Domain) (hroot : f.root < f.nodes.length) :
    ∃ n, f.findNode? (ofCategory f.decisiveShape.category) = some n ∧
      ofShape domains f.decisiveShape = ofShape domains n.shape := by
  obtain ⟨hless, hfound⟩ := decisiveShape_spec f
  by_cases hunknown : f.decisiveShape.category = .unknown
  · -- Nothing known is found, so the failure itself is unknown.
    have hmem : f.nodes[f.root].shape.category ∈ f.categories :=
      ⟨f.root, _, .refl, List.getElem?_eq_getElem hroot, rfl⟩
    have hsome := findNode?_ofCategory_isSome_iff.2 hmem
    have hnot : ¬f.nodes[f.root].shape.category < .unknown := by
      intro hlt
      rw [hless _ (hunknown ▸ hlt)] at hsome
      cases hsome
    rw [eq_of_le_of_not_lt (ErrorCategory.le_unknown _) hnot] at hsome
    obtain ⟨n, hn⟩ := Option.isSome_iff_exists.1 hsome
    rw [ofShape_of_unknown domains hunknown, hunknown]
    exact ⟨n, hn, (ofShape_of_unknown domains (category_of_findNode? hn)).symm⟩
  · obtain ⟨n, hn, hshape⟩ := hfound hunknown
    exact ⟨n, hn, congrArg (ofShape domains) hshape⟩

theorem category_isLeast (domains : List Domain) (hroot : f.root < f.nodes.length) :
    IsLeast f.categories (f.classify domains).category := by
  obtain ⟨hless, -⟩ := decisiveShape_spec f
  obtain ⟨n, hn, -⟩ := exists_decisive domains hroot
  rw [classify_eq, category_ofShape]
  constructor
  · rw [← findNode?_ofCategory_isSome_iff, hn]
    rfl
  · intro d hd
    refine not_lt.1 fun hlt => ?_
    have hsome := findNode?_ofCategory_isSome_iff.2 hd
    rw [hless d hlt] at hsome
    cases hsome

/-! ## Groups with other members -/

/-- A failure of no known shape that leads to no other. -/
def Node.IsIdle (n : Node) : Prop := n.links = [] ∧ n.shape.category = .unknown

theorem not_linked_of_isIdle {nodes : List Node} {i j : Nat} {n : Node} (hn : nodes[i]? = some n)
    (hidle : n.IsIdle) : ¬Linked nodes i j := by
  intro hl
  obtain ⟨m, hm, hj⟩ := linked_iff.1 hl
  obtain rfl : n = m := Option.some.inj (hn.symm.trans hm)
  rw [← Node.links, hidle.1] at hj
  cases hj

/-- The two are alike, but if they are groups, the members of the one are those of the other in any
order, with idle failures among them. -/
structure Node.Regrouped (nodes' : List Node) (n n' : Node) : Prop where
  cause : n'.cause = n.cause
  context : n'.context = n.context
  suppressContext : n'.suppressContext = n.suppressContext
  shape : n'.shape = n.shape ∨ ∃ members members' more, n.shape = .group members ∧
    n'.shape = .group members' ∧ members'.Perm (members ++ more) ∧
    ∀ i ∈ more, ∃ m, nodes'[i]? = some m ∧ m.IsIdle

/-- The members of groups have changed places anywhere in the graph, and idle failures have been
added to the graph and to its groups. -/
structure Regrouped (f g : Failure) : Prop where
  root : g.root = f.root
  kept : ∀ (i : Nat) (n : Node), f.nodes[i]? = some n →
    ∃ n', g.nodes[i]? = some n' ∧ Node.Regrouped g.nodes n n'
  added : ∀ (i : Nat) (n' : Node), f.nodes.length ≤ i → g.nodes[i]? = some n' → n'.IsIdle

theorem members_of_group {n : Node} {members : List Nat} (h : n.shape = .group members) :
    n.members = members := by
  rw [Node.members, h]

namespace Node.Regrouped

variable {nodes' : List Node} {n n' : Node} {j : Nat}

theorem refl (nodes' : List Node) (n : Node) : Node.Regrouped nodes' n n :=
  ⟨rfl, rfl, rfl, Or.inl rfl⟩

theorem origin (h : Node.Regrouped nodes' n n') : n'.origin = n.origin := by
  rw [Node.origin, Node.origin, h.cause, h.context, h.suppressContext]

theorem category (h : Node.Regrouped nodes' n n') : n'.shape.category = n.shape.category := by
  rcases h.shape with hshape | ⟨members, members', more, hn, hn', -⟩
  · rw [hshape]
  · rw [hn, hn']
    rfl

theorem mem_members (h : Node.Regrouped nodes' n n') (hj : j ∈ n.members) : j ∈ n'.members := by
  rcases h.shape with hshape | ⟨members, members', more, hn, hn', hperm, -⟩
  · rwa [Node.members, hshape]
  · rw [members_of_group hn] at hj
    rw [members_of_group hn']
    exact hperm.mem_iff.2 (List.mem_append_left _ hj)

theorem of_mem_members (h : Node.Regrouped nodes' n n') (hj : j ∈ n'.members) :
    j ∈ n.members ∨ ∃ m, nodes'[j]? = some m ∧ m.IsIdle := by
  rcases h.shape with hshape | ⟨members, members', more, hn, hn', hperm, hmore⟩
  · left
    rwa [Node.members, ← hshape]
  · rw [members_of_group hn'] at hj
    rw [members_of_group hn]
    exact (List.mem_append.1 (hperm.mem_iff.1 hj)).imp id (hmore j)

end Node.Regrouped

namespace Regrouped

theorem linked (h : Regrouped f g) {i j : Nat} (hl : Linked f.nodes i j) : Linked g.nodes i j := by
  obtain ⟨n, hn, hj⟩ := linked_iff.1 hl
  obtain ⟨n', hn', hsame⟩ := h.kept i n hn
  refine linked_iff.2 ⟨n', hn', ?_⟩
  rw [hsame.origin]
  exact List.mem_append.2 ((List.mem_append.1 hj).imp hsame.mem_members id)

/-- A link that was not there before leads to an idle failure. -/
theorem of_linked (h : Regrouped f g) {i j : Nat} (hl : Linked g.nodes i j) :
    Linked f.nodes i j ∨ ∃ m, g.nodes[j]? = some m ∧ m.IsIdle := by
  obtain ⟨n', hn', hj⟩ := linked_iff.1 hl
  cases hn : f.nodes[i]? with
  | none =>
      have hidle := h.added i n' (List.getElem?_eq_none_iff.1 hn) hn'
      exact absurd hl (not_linked_of_isIdle hn' hidle)
  | some n =>
      obtain ⟨m, hm, hsame⟩ := h.kept i n hn
      obtain rfl : n' = m := Option.some.inj (hn'.symm.trans hm)
      rw [hsame.origin] at hj
      rcases List.mem_append.1 hj with hj | hj
      · refine (hsame.of_mem_members hj).imp (fun hj => ?_) id
        exact linked_iff.2 ⟨n, hn, List.mem_append_left _ hj⟩
      · exact Or.inl (linked_iff.2 ⟨n, hn, List.mem_append_right _ hj⟩)

theorem leadsTo (h : Regrouped f g) {i : Nat} (hi : f.LeadsTo i) : g.LeadsTo i := by
  rw [LeadsTo, h.root]
  exact ReflTransGen.mono (fun _ _ => h.linked) _ _ hi

theorem of_leadsTo (h : Regrouped f g) {i : Nat} (hi : g.LeadsTo i) :
    f.LeadsTo i ∨ ∃ m, g.nodes[i]? = some m ∧ m.IsIdle := by
  induction hi with
  | refl =>
      left
      rw [h.root]
      exact .refl
  | tail _ hl ih =>
      rcases ih with hi | ⟨m, hm, hidle⟩
      · exact (h.of_linked hl).imp hi.tail id
      · exact absurd hl (not_linked_of_isIdle hm hidle)

/-- One group may be given its members anew. -/
theorem of_set {i : Nat} {n n' : Node} {more : List Node} (hn : f.nodes[i]? = some n)
    (h : Node.Regrouped (f.nodes.set i n' ++ more) n n') (hmore : ∀ m ∈ more, m.IsIdle) :
    Regrouped f ⟨f.nodes.set i n' ++ more, f.root⟩ where
  root := rfl
  kept k m hm := by
    have hlt : k < f.nodes.length := (List.getElem?_eq_some_iff.1 hm).1
    rw [List.getElem?_append_left (by rwa [List.length_set])]
    by_cases hik : i = k
    · subst hik
      obtain rfl : n = m := Option.some.inj (hn.symm.trans hm)
      exact ⟨n', List.getElem?_set_self hlt, h⟩
    · rw [List.getElem?_set_ne hik]
      exact ⟨m, hm, .refl _ _⟩
  added k m hk hm := by
    rw [List.getElem?_append_right (by rwa [List.length_set])] at hm
    exact hmore m (List.mem_of_getElem? hm)

theorem mem_categories_iff (h : Regrouped f g) (hc : c < .unknown) :
    c ∈ g.categories ↔ c ∈ f.categories := by
  constructor
  · rintro ⟨i, n', hi, hn', rfl⟩
    -- The failure is known, so it is no idle one, and was there before.
    have hold : ∀ m, g.nodes[i]? = some m → ¬m.IsIdle := by
      rintro m hm ⟨-, hidle⟩
      obtain rfl : n' = m := Option.some.inj (hn'.symm.trans hm)
      exact absurd hidle hc.ne
    obtain hi | ⟨m, hm, hidle⟩ := h.of_leadsTo hi
    · cases hn : f.nodes[i]? with
      | none => exact absurd (h.added i n' (List.getElem?_eq_none_iff.1 hn) hn') (hold n' hn')
      | some n =>
          obtain ⟨m, hm, hsame⟩ := h.kept i n hn
          obtain rfl : n' = m := Option.some.inj (hn'.symm.trans hm)
          exact ⟨i, n, hi, hn, hsame.category.symm⟩
    · exact absurd hidle (hold m hm)
  · rintro ⟨i, n, hi, hn, rfl⟩
    obtain ⟨n', hn', hsame⟩ := h.kept i n hn
    exact ⟨i, n', h.leadsTo hi, hn', hsame.category⟩

/-- The category of a failure does not change. -/
theorem category_classify (h : Regrouped f g) (domains : List Domain) :
    (g.classify domains).category = (f.classify domains).category := by
  have hfound : ∀ c < ErrorCategory.unknown, (g.findNode? (ofCategory c)).isSome =
      (f.findNode? (ofCategory c)).isSome := by
    intro c hc
    rw [Bool.eq_iff_iff, findNode?_ofCategory_isSome_iff, findNode?_ofCategory_isSome_iff,
      h.mem_categories_iff hc]
  rw [Failure.category_classify, Failure.category_classify, isService_eq, isDeployment_eq,
    isTool_eq, isAuth_eq, hfound _ (by decide), hfound _ (by decide), hfound _ (by decide),
    hfound _ (by decide)]

end Regrouped

/-! ## Wrappers -/

/-- A failure of no known shape that is linked to one failure and to no other. -/
def Wraps (nodes : List Node) (i j : Nat) : Prop :=
  ∃ n, nodes[i]? = some n ∧ n.shape.category = .unknown ∧ ∀ k, Linked nodes i k ↔ k = j

variable {nodes : List Node} {wanted : Node → Bool} {i j : Nat}

/-- It is enough that a failure has one link, be it to its cause, to the failure that was being
handled or to its only member. -/
theorem wraps_of_links {n : Node} (hn : nodes[i]? = some n) (hunknown : n.shape.category = .unknown)
    (hlinks : n.links = [j]) : Wraps nodes i j := by
  refine ⟨n, hn, hunknown, fun k => ?_⟩
  rw [linked_iff]
  constructor
  · rintro ⟨m, hm, hk⟩
    obtain rfl : n = m := Option.some.inj (hn.symm.trans hm)
    rw [← Node.links, hlinks] at hk
    exact List.mem_singleton.1 hk
  · rintro rfl
    exact ⟨n, hn, by rw [← Node.links, hlinks]; exact List.mem_singleton_self k⟩

/-- What was visited, or is no failure, is passed over on the stack. -/
theorem searchFrom_of_passed {seen is : List Nat} (h : ∀ k ∈ is, k ∈ seen ∨ nodes[k]? = none)
    (stack : List Nat) :
    searchFrom nodes wanted seen (is ++ stack) = searchFrom nodes wanted seen stack := by
  induction is with
  | nil => rfl
  | cons k rest ih =>
      have hrest := ih fun k hk => h k (List.mem_cons_of_mem _ hk)
      by_cases hs : seen.contains k = true
      · rw [List.cons_append, searchFrom, dif_pos hs, hrest]
      · have hnone := (h k List.mem_cons_self).resolve_left (by simpa using hs)
        rw [List.cons_append, searchFrom_of_none hs hnone, hrest]

/-- A failure may be on the stack any number of times. -/
theorem searchFrom_of_same {seen rest : List Nat} (h : ∀ k ∈ rest, k = j) :
    searchFrom nodes wanted seen (j :: rest) = searchFrom nodes wanted seen [j] := by
  have hpassed : ∀ k ∈ rest, k ∈ (visits nodes seen [j]).reverse ++ seen ∨ nodes[k]? = none := by
    intro k hk
    obtain rfl := h k hk
    by_cases hlt : k < nodes.length
    · left
      simpa using mem_visits_of_mem seen (List.mem_singleton_self k) hlt
    · exact Or.inr (List.getElem?_eq_none_iff.2 (Nat.le_of_not_lt hlt))
  have hskip : searchFrom nodes wanted ((visits nodes seen [j]).reverse ++ seen) rest =
      searchFrom nodes wanted ((visits nodes seen [j]).reverse ++ seen) [] := by
    simpa only [List.append_nil] using searchFrom_of_passed hpassed []
  rw [← List.singleton_append, searchFrom_append, hskip, ← searchFrom_append, List.append_nil]

/-- Whether a wrapper was visited makes no difference once what it wraps has been visited. -/
theorem searchFrom_of_wrapper (hwraps : Wraps nodes i j)
    (hw : ∀ n, nodes[i]? = some n → wanted n = false) {seen seen' : List Nat} (hj : j ∈ seen)
    (hseen : ∀ k, k ∈ seen' ↔ k = i ∨ k ∈ seen) (stack : List Nat) :
    searchFrom nodes wanted seen' stack = searchFrom nodes wanted seen stack := by
  fun_induction searchFrom nodes wanted seen stack generalizing seen' with
  | case1 seen => rw [searchFrom]
  | case2 seen k stack hs ih =>
      have hs' : seen'.contains k = true := by simpa [hseen] using Or.inr (by simpa using hs)
      rw [searchFrom, dif_pos hs', ih hj hseen]
  | case3 seen k stack hs hn ih =>
      rw [← List.singleton_append, searchFrom_of_passed fun l hl => Or.inr (by
        rw [List.mem_singleton.1 hl, hn])]
      exact ih hj hseen
  | case4 seen k stack hs n hn hwn =>
      have hki : k ≠ i := by
        rintro rfl
        rw [hw n hn] at hwn
        cases hwn
      have hs' : ¬seen'.contains k = true := by
        simpa [hseen, hki] using hs
      rw [searchFrom_of_some hs' hn, if_pos hwn]
  | case5 seen k stack hs n hn hwn ih =>
      by_cases hki : k = i
      · -- The wrapper comes up on one side only, where it leads to what has been visited.
        subst hki
        obtain ⟨m, hm, -, hlinks⟩ := hwraps
        obtain rfl : n = m := Option.some.inj (hn.symm.trans hm)
        have hs' : seen'.contains k = true := by simp [hseen]
        have hpassed : ∀ l ∈ n.links, l ∈ seen' ∨ nodes[l]? = none := by
          intro l hl
          have hlj := (hlinks l).1 (linked_iff.2 ⟨n, hn, hl⟩)
          exact Or.inl ((hseen l).2 (Or.inr (hlj ▸ hj)))
        have hboth : ∀ l, l ∈ seen' ↔ l = k ∨ l ∈ k :: seen := by simpa using hseen
        rw [searchFrom, dif_pos hs', ← ih (List.mem_cons_of_mem _ hj) hboth,
          searchFrom_of_passed hpassed]
      · have hs' : ¬seen'.contains k = true := by
          simpa [hseen, hki] using hs
        rw [searchFrom_of_some hs' hn, if_neg hwn]
        refine ih (List.mem_cons_of_mem _ hj) fun l => ?_
        simp only [List.mem_cons, hseen]
        tauto

/-- A search for what a wrapper is not may as well start at what it wraps. -/
theorem searchFrom_of_wraps (hwraps : Wraps nodes i j)
    (hw : ∀ n, nodes[i]? = some n → wanted n = false) :
    searchFrom nodes wanted [] [i] = searchFrom nodes wanted [] [j] := by
  by_cases hji : j = i
  · rw [hji]
  obtain ⟨n, hn, -, hlinks⟩ := id hwraps
  have hall : ∀ k, k ∈ n.links ↔ k = j := by
    intro k
    rw [← hlinks k, linked_iff]
    constructor
    · exact fun hk => ⟨n, hn, hk⟩
    · rintro ⟨m, hm, hk⟩
      rwa [Option.some.inj (hn.symm.trans hm)]
  obtain ⟨rest, hrest⟩ : ∃ rest, n.links = j :: rest := by
    cases hl : n.links with
    | nil => exact absurd ((hall j).2 rfl) (by simp [hl])
    | cons k rest =>
        obtain rfl := (hall k).1 (by simp [hl])
        exact ⟨rest, rfl⟩
  have hsame : ∀ k ∈ rest, k = j := fun k hk => (hall k).1 (by simp [hrest, hk])
  have hnil : ∀ k : Nat, ¬([] : List Nat).contains k = true := by simp
  rw [searchFrom_of_some (hnil i) hn, hw n hn, if_neg Bool.false_ne_true, List.append_nil, hrest,
    searchFrom_of_same hsame]
  have hs : ¬[i].contains j = true := by simpa using hji
  cases hm : nodes[j]? with
  | none => rw [searchFrom_of_none hs hm, searchFrom_of_none (hnil j) hm, searchFrom, searchFrom]
  | some m =>
      rw [searchFrom_of_some hs hm, searchFrom_of_some (hnil j) hm]
      split
      · rfl
      · refine searchFrom_of_wrapper hwraps hw List.mem_cons_self (fun k => ?_) _
        simp [or_comm]

theorem findNode?_of_wraps (hwraps : Wraps nodes i j) (hc : c < .unknown) :
    findNode? ⟨nodes, i⟩ (ofCategory c) = findNode? ⟨nodes, j⟩ (ofCategory c) := by
  obtain ⟨n, hn, hunknown, -⟩ := id hwraps
  have hw : ∀ m, nodes[i]? = some m → ofCategory c m = false := by
    intro m hm
    obtain rfl : n = m := Option.some.inj (hn.symm.trans hm)
    rw [Bool.eq_false_iff, ne_eq, ofCategory_iff, hunknown]
    exact hc.ne'
  have hfind : find? ⟨nodes, i⟩ (ofCategory c) = find? ⟨nodes, j⟩ (ofCategory c) :=
    searchFrom_of_wraps hwraps hw
  rw [findNode?, findNode?, hfind]

/-- A wrapper is classified as what it wraps, and so is a wrapper of a wrapper. -/
theorem classify_of_wraps (domains : List Domain) (h : ReflTransGen (Wraps nodes) i j) :
    classify domains ⟨nodes, i⟩ = classify domains ⟨nodes, j⟩ := by
  induction h with
  | refl => rfl
  | tail _ hwraps ih =>
      rw [ih, classify_eq, classify_eq]
      unfold decisiveShape
      rw [isService_eq, isDeployment_eq, isTool_eq, isAuth_eq,
        findNode?_of_wraps hwraps (by decide), findNode?_of_wraps hwraps (by decide),
        findNode?_of_wraps hwraps (by decide), findNode?_of_wraps hwraps (by decide)]

/-- The category of a failure is the least of all that it leads to, and it is classified as the
first failure of that category would be on its own. Its category is no other if groups are given
their members in another order or idle ones besides, and its classification is that of everything
that wraps it. -/
theorem least_category_decides (domains : List Domain) (f : Failure)
    (hroot : f.root < f.nodes.length) :
    IsLeast f.categories (f.classify domains).category ∧
    (∃ i n, f.searchOrder.find? (wantedAt f.nodes (ofCategory (f.classify domains).category)) =
      some i ∧ f.nodes[i]? = some n ∧ f.classify domains = (single n).classify domains) ∧
    (∀ g, Regrouped f g → (g.classify domains).category = (f.classify domains).category) ∧
    ∀ w, ReflTransGen (Wraps f.nodes) w f.root →
      classify domains ⟨f.nodes, w⟩ = f.classify domains := by
  refine ⟨category_isLeast domains hroot, ?_, fun g h => h.category_classify domains,
    fun w h => classify_of_wraps domains h⟩
  obtain ⟨n, hn, hshape⟩ := exists_decisive domains hroot
  obtain ⟨i, hi, hget⟩ := findNode?_eq_some_iff.1 hn
  refine ⟨i, n, ?_, hget, ?_⟩
  · rw [classify_eq, category_ofShape, hi]
  · rw [classify_single, classify_eq, hshape]

/-- A group of a failed tool and of a missing answer. The tool was caused by the group itself, and
the answer by one of the failures that wrap the group. -/
def brokenRelease : Failure where
  nodes :=
    [Node.group true "release failed" [1, 2],
     { Node.tool "/usr/bin/make" 2 with cause := some 0 },
     { Node.general "OSError" "no route" with context := some 3 },
     { Node.service "Gone" (some ⟨410, none⟩) with cause := some 4 },
     { Node.general "ValueError" "bad release" with cause := some 0 },
     { Node.general "RuntimeError" "giving up" with context := some 4 }]
  root := 0

/-- The same with the members of the group in another order, and one more between them. -/
def regroupedRelease : Failure where
  nodes :=
    brokenRelease.nodes.set 0 (Node.group true "release failed" [2, 6, 1]) ++
      [Node.general "TimeoutError" "no answer"]
  root := 0

theorem brokenRelease_is_gone :
    brokenRelease.root < brokenRelease.nodes.length ∧
      Regrouped brokenRelease regroupedRelease ∧
      ReflTransGen (Wraps brokenRelease.nodes) 5 brokenRelease.root ∧
      (brokenRelease.classify wellKnownDomains).category = .service ∧
      (regroupedRelease.classify wellKnownDomains).category = .service ∧
      classify wellKnownDomains ⟨brokenRelease.nodes, 5⟩ =
        (single (Node.service "Gone" (some ⟨410, none⟩))).classify wellKnownDomains := by
  have hroot : brokenRelease.root < brokenRelease.nodes.length := by decide
  have hregrouped : Regrouped brokenRelease regroupedRelease := by
    refine Regrouped.of_set (f := brokenRelease) (i := 0) rfl ⟨rfl, rfl, rfl, Or.inr
      ⟨[1, 2], [2, 6, 1], [6], rfl, rfl, by decide, fun k hk => ?_⟩⟩ fun m hm => ?_
    · obtain rfl := List.mem_singleton.1 hk
      exact ⟨_, rfl, rfl, rfl⟩
    · obtain rfl := List.mem_singleton.1 hm
      exact ⟨rfl, rfl⟩
  have hwraps : ReflTransGen (Wraps brokenRelease.nodes) 5 brokenRelease.root :=
    .head (wraps_of_links rfl rfl rfl) (.single (wraps_of_links rfl rfl rfl))
  have hshape : brokenRelease.decisiveShape = .service "Gone" (some ⟨410, none⟩) := by cbv
  have hclass : brokenRelease.classify wellKnownDomains =
      ofService wellKnownDomains "Gone" (some ⟨410, none⟩) := by rw [classify_eq, hshape]; rfl
  obtain ⟨-, -, hstable, hwrapped⟩ := least_category_decides wellKnownDomains brokenRelease hroot
  refine ⟨hroot, hregrouped, hwraps, ?_, ?_, ?_⟩
  · rw [hclass]
    rfl
  · rw [hstable _ hregrouped, hclass]
    rfl
  · rw [hwrapped 5 hwraps, classify_single, hclass]
    rfl

end Failure

end CommandTelemetry
