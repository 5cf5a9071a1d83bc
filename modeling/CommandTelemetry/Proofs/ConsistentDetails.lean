import CommandTelemetry.Proofs.InterceptorExits

/-!
# Codes and details agree

The code of a classification and its details are put together side by side from the same failure,
parts of which may be missing: an answer without its request, a tool without a name. What one of
them says the other must not contradict. The code of a service names the service and the status that
stand in the details, that of a tool its label, and the labels of a service come from one entry of
the table.

Details are kept as a list and recorded as a mapping. Since no two of them have one name, nothing
gets lost between the two, neither in the mapping nor on a span without limits.
-/

namespace CommandTelemetry

open Trace Label Attribute

/-! ## Mappings and spans without limits -/

namespace Attribute

/-- Writes under new keys that are all different are kept as they come. -/
theorem foldl_put {attrs writes : Attributes} (h : ((attrs ++ writes).map Prod.fst).Nodup) :
    writes.foldl (fun m e => put m e.1 e.2) attrs = attrs ++ writes := by
  induction writes generalizing attrs with
  | nil => rw [List.append_nil, List.foldl_nil]
  | cons e rest ih =>
      have hfresh : e.1 ∉ attrs.map Prod.fst := notMem_keys_of_nodup h
      rw [List.append_cons] at h ⊢
      rw [List.foldl_cons, put_of_notMem hfresh]
      exact ih h

end Attribute

namespace Trace.Span

/-- The attributes under none of these keys. -/
def without (attrs : Attributes) (keys : List String) : Attributes :=
  attrs.filter fun a => a.1 ∉ keys

theorem store_of_unlimited {limits : Limits} (hcount : limits.attributes = none)
    (hlength : limits.textLength = none) (attrs : Attributes) {k : String} (hk : k ≠ "")
    {v : Value} (hv : isRefused v = false) :
    store limits attrs k v = without attrs [k] ++ [(k, v)] := by
  have hfilter : without attrs [k] = attrs.filter (·.1 ≠ k) := by
    refine List.filter_congr fun a _ => ?_
    simp only [List.mem_singleton, ne_eq]
  have hunlimited : ∀ n, ¬(none : Option Nat) = some n := fun _ h => by cases h
  have hkept : kept limits v = v := by rw [kept, hlength]
  rw [store_eq, hkept, hcount, if_neg (by rw [decide_eq_false hk, hv]; exact Bool.false_ne_true),
    if_neg (hunlimited 0), hfilter]
  split
  · rfl
  · next hnew =>
      rw [if_neg (hunlimited _)]
      refine congrArg (· ++ [(k, v)]) (List.filter_eq_self.2 fun a ha => ?_).symm
      refine decide_eq_true fun h => hnew ?_
      exact List.any_eq_true.2 ⟨a, ha, decide_eq_true h⟩

theorem without_append (attrs others : Attributes) (keys : List String) :
    without (attrs ++ others) keys = without attrs keys ++ without others keys :=
  List.filter_append ..

theorem without_without (attrs : Attributes) (keys others : List String) :
    without (without attrs keys) others = without attrs (keys ++ others) := by
  unfold without
  rw [List.filter_filter]
  refine List.filter_congr fun a _ => ?_
  rw [← Bool.decide_and]
  refine decide_eq_decide.2 ?_
  rw [List.mem_append, not_or, and_comm]

theorem without_of_disjoint {attrs : Attributes} {keys : List String}
    (h : ∀ a ∈ attrs, a.1 ∉ keys) : without attrs keys = attrs :=
  List.filter_eq_self.2 fun a ha => decide_eq_true (h a ha)

/-- On a span without limits, writes under different keys stand behind what was there under others,
as they were written. -/
theorem storeAll_of_unlimited {limits : Limits} (hcount : limits.attributes = none)
    (hlength : limits.textLength = none) (attrs : Attributes) {writes : Attributes}
    (hkeys : (writes.map Prod.fst).Nodup)
    (htaken : ∀ w ∈ writes, w.1 ≠ "" ∧ isRefused w.2 = false) :
    storeAll limits attrs writes = without attrs (writes.map Prod.fst) ++ writes := by
  induction writes generalizing attrs with
  | nil =>
      rw [List.map_nil, without_of_disjoint fun _ _ => List.not_mem_nil, List.append_nil]
      rfl
  | cons e rest ih =>
      obtain ⟨hfresh, hrest⟩ := List.nodup_cons.1 hkeys
      obtain ⟨⟨hne, hv⟩, htaken⟩ := List.forall_mem_cons.1 htaken
      have hown : without [e] (rest.map Prod.fst) = [e] := by
        refine without_of_disjoint fun a ha => ?_
        rw [List.mem_singleton.1 ha]
        exact hfresh
      rw [storeAll, List.foldl_cons, ← storeAll, ih _ hrest htaken,
        store_of_unlimited hcount hlength attrs hne hv, without_append, hown, without_without,
        List.append_assoc]
      rfl

end Trace.Span

/-! ## Consistent classifications -/

theorem errorKey_ne_empty (key : String) : errorKey key ≠ "" := by
  intro h
  have := congrArg String.toList h
  rw [errorKey, String.toList_append] at this
  exact List.append_ne_nil_of_left_ne_nil (by decide) _ this

namespace Failure

namespace Classification

/-- The details, written into a mapping one after the other. -/
def namespaced (c : Classification) : Attributes :=
  c.details.foldl (fun m d => put m (errorKey d.1.key) d.2) []

/-- A detail in words, or what stands for it where there is none. -/
def detailText (c : Classification) (name : AttributeName) (absent : String) : String :=
  match c.detail? name.key with
  | some (.text s) => s
  | some (.int n) => toString n
  | _ => absent

/-- The names of a service are told all together or not at all, and not without a status. Those of
service and host come from one entry of the table, or both stand for another service. -/
def NamesOneService (domains : List Domain) (c : Classification) : Prop :=
  (c.detail? AttributeName.serviceName.key = none ∧
    c.detail? AttributeName.serviceHost.key = none ∧
    c.detail? AttributeName.serviceMethod.key = none) ∨
  ∃ label method status,
    c.detail? AttributeName.serviceName.key = some (.text label.service) ∧
    c.detail? AttributeName.serviceHost.key = some (.text label.host) ∧
    c.detail? AttributeName.serviceMethod.key = some (.text method) ∧
    c.detail? AttributeName.serviceStatusCode.key = some (.int status) ∧
    (⟨label.host, label.service⟩ ∈ domains ∨ label = unknownService)

/-- Details, mapping and code of a classification say the same. -/
structure Consistent (domains : List Domain) (c : Classification) : Prop where
  vocabulary : ∀ d ∈ c.details, d.1 ∈ AttributeName.all
  names : (c.details.map (·.1.key)).Nodup
  mapping : c.namespaced = c.details.map fun d => (errorKey d.1.key, d.2)
  keys : (c.namespaced.map Prod.fst).Nodup
  found : ∀ d ∈ c.details, c.detail? d.1.key = some d.2
  service : c.category = .service →
    c.code = "service." ++ c.detailText .serviceName other ++ "." ++
      c.detailText .serviceStatusCode "-1" ∧ c.NamesOneService domains
  tool : c.category = .tool →
    ∃ name, c.detail? AttributeName.toolName.key = some (.text name) ∧
      c.code = "tool." ++ name ++ ".failed"

end Classification

open Classification

theorem keys_attributes (c : Classification) :
    c.attributes.map Prod.fst = c.details.map fun d => errorKey d.1.key := by
  rw [attributes, List.map_map]
  rfl

theorem nodup_names {c : Classification} (h : (c.details.map Prod.fst).Nodup) :
    (c.details.map (·.1.key)).Nodup ∧ (c.attributes.map Prod.fst).Nodup := by
  have hnames : (c.details.map (·.1.key)).Nodup := by
    have := h.map fun _ _ => AttributeName.key_injective
    rwa [List.map_map] at this
  refine ⟨hnames, ?_⟩
  have := hnames.map fun _ _ => errorKey_injective
  rw [List.map_map] at this
  rw [keys_attributes]
  exact this

theorem namespaced_eq {c : Classification} (h : (c.attributes.map Prod.fst).Nodup) :
    c.namespaced = c.attributes := by
  have hfold : c.namespaced = c.attributes.foldl (fun m e => put m e.1 e.2) [] := by
    rw [attributes, List.foldl_map]
    rfl
  rw [hfold, foldl_put (by rwa [List.nil_append]), List.nil_append]

theorem detail?_eq_lookup (c : Classification) (key : String) :
    c.detail? key = (c.details.map fun d => (d.1.key, d.2)).lookup key := by
  unfold detail?
  induction c.details with
  | nil => rfl
  | cons d rest ih =>
      rw [List.map_cons, List.lookup_cons, List.find?_cons, Bool.beq_comm]
      by_cases h : d.1.key = key
      · rw [decide_eq_true h, beq_iff_eq.2 h]
        rfl
      · rw [decide_eq_false h, beq_false_of_ne h]
        exact ih

theorem detail?_of_mem {c : Classification} (h : (c.details.map (·.1.key)).Nodup)
    {d : AttributeName × Value} (hd : d ∈ c.details) : c.detail? d.1.key = some d.2 := by
  rw [detail?_eq_lookup]
  refine lookup_of_mem ?_ (List.mem_map_of_mem hd)
  rw [List.map_map]
  exact h

/-- A host is resolved to an entry of the table, or to none. -/
theorem resolveService_mem (domains : List Domain) (host : String) :
    ⟨(resolveService domains host).host, (resolveService domains host).service⟩ ∈ domains ∨
      resolveService domains host = unknownService := by
  unfold resolveService
  cases hfind : domains.find? fun d => Domain.covers d host with
  | none => exact .inr rfl
  | some d => exact .inl (List.mem_of_find?_eq_some hfind)

theorem consistent_service (domains : List Domain) (errorCode : String)
    (response : Option Response) :
    (ofService domains errorCode response).code =
        "service." ++ (ofService domains errorCode response).detailText .serviceName other ++ "." ++
          (ofService domains errorCode response).detailText .serviceStatusCode "-1" ∧
      (ofService domains errorCode response).NamesOneService domains := by
  match response with
  | none => exact ⟨rfl, .inl ⟨rfl, rfl, rfl⟩⟩
  | some ⟨status, none⟩ => exact ⟨rfl, .inl ⟨rfl, rfl, rfl⟩⟩
  | some ⟨status, some ⟨method, host⟩⟩ =>
      exact ⟨rfl, .inr ⟨resolveService domains host, method, status, rfl, rfl, rfl, rfl,
        resolveService_mem domains host⟩⟩

theorem consistent_ofShape (domains : List Domain) (shape : Shape) :
    (ofShape domains shape).Consistent domains := by
  obtain ⟨-, hnodup, -⟩ := details_ofShape domains shape
  obtain ⟨hnames, hkeys⟩ := nodup_names hnodup
  refine ⟨fun d _ => d.1.mem_all, hnames, namespaced_eq hkeys, ?_, fun d => detail?_of_mem hnames,
    ?_, ?_⟩
  · rw [namespaced_eq hkeys]
    exact hkeys
  · rw [category_ofShape]
    intro h
    cases shape with
    | service errorCode response => exact consistent_service domains errorCode response
    | deployment _ | tool _ _ | auth _ | group _ | fault _ | plain => cases h
  · rw [category_ofShape]
    intro h
    cases shape with
    | tool command exitCode => exact ⟨toolLabel command, rfl, rfl⟩
    | service _ _ | deployment _ | auth _ | group _ | fault _ | plain => cases h

/-- The details of a classification are consistent with its code, and a recording span without
limits gets them as they are, instead of what stood under their keys, and the code as its status. -/
theorem consistent_classify (domains : List Domain) (f : Failure) :
    (f.classify domains).Consistent domains ∧
      ∀ span : Span, span.isRecording = true → span.limits = ⟨none, none⟩ →
        Interceptor.mark usualSettings span (f.classify domains) =
          .ok (pure
            { span with
              attributes :=
                Span.without span.attributes ((f.classify domains).namespaced.map Prod.fst) ++
                  (f.classify domains).namespaced
              status := .error (f.classify domains).code }) := by
  have hconsistent : (f.classify domains).Consistent domains := by
    rw [classify_eq]
    exact consistent_ofShape domains f.decisiveShape
  refine ⟨hconsistent, fun span hrecording hlimits => ?_⟩
  have hattributes : (f.classify domains).namespaced = (f.classify domains).attributes :=
    hconsistent.mapping
  have htaken : ∀ a ∈ (f.classify domains).attributes, a.1 ≠ "" ∧ isRefused a.2 = false := by
    intro a ha
    refine ⟨?_, Span.isRefused_of_isPlain (isPlain_attributes domains f a ha)⟩
    obtain ⟨d, -, rfl⟩ := List.mem_map.1 ha
    exact errorKey_ne_empty d.1.key
  have hnext : ∀ attributes, ({ span with attributes } : Span).isRecording = true :=
    fun _ => hrecording
  have hshown : (f.classify domains).shown usualSettings = ⟨(f.classify domains).attributes, []⟩ :=
    shown_usual domains f
  rw [Interceptor.mark_classify, Interceptor.marked, hshown,
    Span.setAttributes_of_recording hrecording, Span.setError_of_recording (hnext _), hattributes,
    Span.storeAll_of_unlimited (by rw [hlimits]) (by rw [hlimits]) _
      (hattributes ▸ hconsistent.keys) htaken]
  rfl

/-- A request that went wrong, as the command that made it raises it, next to a tool that failed. -/
def missingGroup : Failure :=
  (single (Node.tool "make" 2)).causing
    (Node.service "NotFound" (some ⟨404, some ⟨"GET", "eastus.management.azure.com"⟩⟩))

/-- A span on which another failure was told before. -/
def reusedSpan : Span where
  context := ⟨1, 1, true⟩
  parent := none
  name := "cmd.sync"
  scope := Scope.cli.name
  scopeVersion := usualInstrumentation.scopeVersion
  limits := ⟨none, none⟩
  isRecording := true
  attributes :=
    [("error.service.name", .text "graph"), ("cmd.args.count", .int 1),
     ("error.tool.name", .text "make")]

theorem missingGroup_consistent :
    (missingGroup.classify wellKnownDomains).Consistent wellKnownDomains ∧
      Interceptor.mark usualSettings reusedSpan (missingGroup.classify wellKnownDomains) =
        .ok (pure
          { reusedSpan with
            attributes :=
              [("cmd.args.count", .int 1), ("error.tool.name", .text "make"),
               ("error.service.error.code", .text "NotFound"),
               ("error.service.status.code", .int 404),
               ("error.service.host", .text "management.azure.com"),
               ("error.service.method", .text "GET"), ("error.service.name", .text "arm")]
            status := .error "service.arm.404" }) := by
  obtain ⟨hconsistent, hmark⟩ := consistent_classify wellKnownDomains missingGroup
  refine ⟨hconsistent, (hmark reusedSpan rfl rfl).trans ?_⟩
  have hshape : missingGroup.decisiveShape =
      .service "NotFound" (some ⟨404, some ⟨"GET", "eastus.management.azure.com"⟩⟩) := by cbv
  rw [classify_eq, hshape]
  rfl

end Failure

end CommandTelemetry
