import CommandTelemetry.Failure.Classification
import CommandTelemetry.Proofs.NormalAttributes
import CommandTelemetry.Proofs.SearchOrder

/-!
# What a classification says

A classification depends on one shape alone, the decisive one, and its category is the category of
that shape. The decisive shape is looked for in four searches, so its category says which of the
four found anything.

The details of a classification are plain values under names that are all different, and none of
those names is sensitive in the usual settings. So they always have normal forms, and in the usual
settings they are their own: to record them on a span is to write them as they are.
-/

namespace CommandTelemetry

theorem AttributeName.mem_all (a : AttributeName) : a ∈ AttributeName.all := by
  cases a <;> decide

theorem AttributeName.key_injective {a b : AttributeName} (h : a.key = b.key) : a = b := by
  have hall : ∀ a ∈ AttributeName.all, ∀ b ∈ AttributeName.all, a.key = b.key → a = b := by
    decide
  exact hall a a.mem_all b b.mem_all h

theorem errorKey_injective {k l : String} (h : errorKey k = errorKey l) : k = l := by
  have := congrArg String.toList h
  simp only [errorKey, String.toList_append, List.append_cancel_left_eq] at this
  exact String.toList_injective this

/-- No name of the vocabulary looks sensitive where it marks an error. -/
theorem not_isSensitive_errorKey (a : AttributeName) :
    Attribute.isSensitive Attribute.usualRedactKeys (errorKey a.key) = false := by
  have hall : ∀ a ∈ AttributeName.all,
      Attribute.isSensitive Attribute.usualRedactKeys (errorKey a.key) = false := by decide
  exact hall a a.mem_all

namespace Failure

/-- The category of the failures of a shape. -/
def Shape.category : Shape → ErrorCategory
  | .service .. => .service
  | .deployment _ => .deployment
  | .tool .. => .tool
  | .auth _ => .auth
  | _ => .unknown

/-- The text of the codes of a failed deployment, if there are any. -/
def codesText (details : Option DeploymentLine) : Option String :=
  match deploymentCodes details with
  | [] => none
  | codes => denseCodes codes

/-- The classification of the failures of a shape. -/
def ofShape (domains : List Domain) : Shape → Classification
  | .service errorCode response => ofService domains errorCode response
  | .deployment details => ofDeployment (codesText details)
  | .tool command exitCode => ofTool command exitCode
  | .auth payload => ofAuth payload
  | _ => unclassified

theorem classify_eq (domains : List Domain) (f : Failure) :
    f.classify domains = ofShape domains f.decisiveShape := by
  unfold classify classifyWith ofShape codesText
  cases f.decisiveShape with
  | deployment details => simp only []; cases deploymentCodes details <;> rfl
  | _ => rfl

theorem category_ofShape (domains : List Domain) (shape : Shape) :
    (ofShape domains shape).category = shape.category := by
  cases shape <;> rfl

theorem isService_iff {n : Node} : n.isService = true ↔ n.shape.category = .service := by
  unfold Node.isService
  cases n.shape <;> simp [Shape.category]

theorem isDeployment_iff {n : Node} : n.isDeployment = true ↔ n.shape.category = .deployment := by
  unfold Node.isDeployment
  cases n.shape <;> simp [Shape.category]

theorem isTool_iff {n : Node} : n.isTool = true ↔ n.shape.category = .tool := by
  unfold Node.isTool
  cases n.shape <;> simp [Shape.category]

theorem isAuth_iff {n : Node} : n.isAuth = true ↔ n.shape.category = .auth := by
  unfold Node.isAuth
  cases n.shape <;> simp [Shape.category]

/-- The category is that of the first search that finds anything. -/
theorem category_classify (domains : List Domain) (f : Failure) :
    (f.classify domains).category =
      if (f.findNode? Node.isService).isSome then .service
      else if (f.findNode? Node.isDeployment).isSome then .deployment
      else if (f.findNode? Node.isTool).isSome then .tool
      else if (f.findNode? Node.isAuth).isSome then .auth
      else .unknown := by
  rw [classify_eq, category_ofShape, decisiveShape]
  cases hs : f.findNode? Node.isService with
  | some n => exact isService_iff.1 (wanted_of_findNode? hs)
  | none =>
      cases hd : f.findNode? Node.isDeployment with
      | some n => exact isDeployment_iff.1 (wanted_of_findNode? hd)
      | none =>
          cases ht : f.findNode? Node.isTool with
          | some n => exact isTool_iff.1 (wanted_of_findNode? ht)
          | none =>
              cases ha : f.findNode? Node.isAuth with
              | some n => exact isAuth_iff.1 (wanted_of_findNode? ha)
              | none => rfl

/-! ## One known shape -/

theorem findNode?_of_only {f : Failure} {n : Node} {wanted : Node → Bool}
    (hroot : f.nodes[f.root]? = some n) (honly : ∀ m ∈ f.nodes, wanted m = true → m = n) :
    f.findNode? wanted = if wanted n then some n else none := by
  have hfound : ∀ m, f.findNode? wanted = some m → wanted m = true ∧ m = n := by
    intro m hm
    have hw := wanted_of_findNode? hm
    obtain ⟨i, -, hi⟩ := Option.bind_eq_some_iff.1 hm
    exact ⟨hw, honly m (List.mem_of_getElem? hi) hw⟩
  split
  · next hw =>
      obtain ⟨m, hm⟩ := Option.isSome_iff_exists.1
        (findNode?_isSome_iff.2 ⟨f.root, n, .refl, hroot, hw⟩)
      rw [hm, (hfound m hm).2]
  · next hw =>
      refine Option.eq_none_iff_forall_ne_some.2 fun m hm => hw ?_
      obtain ⟨hwm, rfl⟩ := hfound m hm
      exact hwm

/-- The one failure of a known shape in a graph decides, if the graph is that of its own. -/
theorem decisiveShape_of_only {f : Failure} {n : Node} (hroot : f.nodes[f.root]? = some n)
    (hknown : n.shape.category ≠ .unknown)
    (honly : ∀ m ∈ f.nodes, m.shape.category = .unknown ∨ m = n) : f.decisiveShape = n.shape := by
  have hothers : ∀ {wanted : Node → Bool} {c : ErrorCategory}, c ≠ .unknown →
      (∀ {m : Node}, wanted m = true ↔ m.shape.category = c) →
      ∀ m ∈ f.nodes, wanted m = true → m = n := by
    intro wanted c hc hiff m hm hw
    rcases honly m hm with hunknown | rfl
    · rw [hiff.1 hw] at hunknown
      exact absurd hunknown hc
    · rfl
  unfold decisiveShape
  rw [findNode?_of_only hroot (hothers (by decide) isService_iff),
    findNode?_of_only hroot (hothers (by decide) isDeployment_iff),
    findNode?_of_only hroot (hothers (by decide) isTool_iff),
    findNode?_of_only hroot (hothers (by decide) isAuth_iff)]
  unfold Node.isService Node.isDeployment Node.isTool Node.isAuth
  cases hshape : n.shape with
  | service _ _ | deployment _ | tool _ _ | auth _ => exact hshape
  | group _ | fault _ | plain =>
      rw [hshape] at hknown
      exact absurd rfl hknown

/-! ## Details -/

/-- Details are few plain values under names that are all different. -/
theorem details_ofShape (domains : List Domain) (shape : Shape) :
    (∀ d ∈ (ofShape domains shape).details, d.2.isPlain = true) ∧
      ((ofShape domains shape).details.map Prod.fst).Nodup ∧
      (ofShape domains shape).details.length ≤ 5 := by
  cases shape with
  | service errorCode response =>
      rcases response with _ | ⟨status, _ | ⟨method, host⟩⟩ <;>
        simp [ofShape, ofService, Value.isPlain]
  | deployment details =>
      cases h : codesText details <;> simp [ofShape, ofDeployment, h, Value.isPlain]
  | tool command exitCode => simp [ofShape, ofTool, Value.isPlain]
  | auth payload => cases payload <;> simp [ofShape, ofAuth, Value.isPlain]
  | group _ | fault _ | plain => simp [ofShape, unclassified]

theorem isPlain_attributes (domains : List Domain) (f : Failure) :
    ∀ a ∈ (f.classify domains).attributes, a.2.isPlain = true := by
  rw [classify_eq]
  intro a ha
  obtain ⟨d, hd, rfl⟩ := List.mem_map.1 ha
  exact (details_ofShape domains f.decisiveShape).1 d hd

theorem length_attributes_le (domains : List Domain) (f : Failure) :
    (f.classify domains).attributes.length ≤ 5 := by
  rw [Classification.attributes, List.length_map, classify_eq]
  exact (details_ofShape domains f.decisiveShape).2.2

/-- In the usual settings the details of a classification are their own normal forms. -/
theorem normalizeAll_attributes (domains : List Domain) (f : Failure) :
    Attribute.normalizeAll Attribute.usualSettings
        ((f.classify domains).attributes.map fun a => (.text a.1, a.2)) =
      .ok (f.classify domains).attributes := by
  rw [classify_eq]
  obtain ⟨hplain, hnodup, -⟩ := details_ofShape domains f.decisiveShape
  refine Attribute.normalizeAll_of_isPlain rfl ?_ ?_ ?_
  · have hkeys : (ofShape domains f.decisiveShape).attributes.map Prod.fst =
        ((ofShape domains f.decisiveShape).details.map Prod.fst).map fun a => errorKey a.key := by
      simp [Classification.attributes]
    rw [hkeys]
    exact hnodup.map fun a b h =>
      AttributeName.key_injective (errorKey_injective h)
  · intro a ha
    obtain ⟨d, hd, rfl⟩ := List.mem_map.1 ha
    exact hplain d hd
  · intro a ha
    obtain ⟨d, hd, rfl⟩ := List.mem_map.1 ha
    exact not_isSensitive_errorKey d.1

open Attribute

/-- The details of a classification in their normal forms, as they are written on a span. -/
def Classification.shown (settings : Settings) (c : Classification) : Logged Attributes :=
  match normalize settings (facts c.attributes) with
  | .ok l => l
  | .error _ => pure []

/-- Details always have normal forms. -/
theorem normalize_attributes (settings : Settings) (domains : List Domain) (f : Failure) :
    normalize settings (facts (f.classify domains).attributes) =
      .ok ((f.classify domains).shown settings) := by
  have hfacts : ∀ e ∈ facts (f.classify domains).attributes, IsSpanFact e := by
    intro e he
    obtain ⟨a, ha, rfl⟩ := List.mem_map.1 he
    have hplain := isPlain_attributes domains f a ha
    refine ⟨⟨a.1, rfl⟩, ?_⟩
    cases hv : a.2 <;> rw [hv] at hplain <;> first | rfl | cases hplain
  obtain ⟨l, hl⟩ := normalize_ok settings hfacts
  rw [Classification.shown, hl]

theorem shown_usual (domains : List Domain) (f : Failure) :
    (f.classify domains).shown usualSettings = pure (f.classify domains).attributes := by
  have hshown := normalize_attributes usualSettings domains f
  rw [normalize_of_unlimited rfl, facts, normalizeAll_attributes] at hshown
  exact (Except.ok.inj hshown).symm

/-- Details are written under their own keys, or not at all where there is no room. -/
theorem mem_attributes_of_mem_shown {settings : Settings} {domains : List Domain} {f : Failure}
    {k : String} (h : k ∈ ((f.classify domains).shown settings).value.map Prod.fst) :
    k ∈ (f.classify domains).attributes.map Prod.fst := by
  obtain ⟨e, he, hkey⟩ := keys_normalize (normalize_attributes settings domains f) h
  obtain ⟨a, ha, rfl⟩ := List.mem_map.1 he
  obtain rfl := Except.ok.inj hkey
  exact List.mem_map_of_mem ha

theorem length_shown_le (settings : Settings) (domains : List Domain) (f : Failure) :
    ((f.classify domains).shown settings).value.length ≤ 5 := by
  have hlength := length_normalize_le (normalize_attributes settings domains f)
  rw [facts, List.length_map] at hlength
  exact hlength.trans (length_attributes_le domains f)

end Failure

end CommandTelemetry
