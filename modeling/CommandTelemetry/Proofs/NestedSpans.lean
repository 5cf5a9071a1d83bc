import CommandTelemetry.Proofs.Nesting

/-!
# Spans of nested invocations

The interceptors of nested invocations know nothing of each other. An inner one finds the outer one
through the context alone: the one it is given, or the current one of the session. This file shows
that this is enough. The spans that a course leaves behind form a tree of the shape that was
planned, kept in the order of its ends, and each of them says of its place in the tree what it
should.

The invariant is `Within`: while a course runs, the current context belongs to the nearest span
above, and its baggage is the entry that stands above. An invocation takes the session from one such
state to another one level further down, and brings it back when it ends, whether or not it fails.
That is why later siblings are not affected. The induction is on the course, with the spans above
as they will be in the end; that they are not finished yet does not matter, since their identities
are settled when they open.
-/

namespace CommandTelemetry

open Trace Label Attribute

open Script (outcomeOf)

/-! ## How spans open -/

namespace Trace.Provider

/-- The provider keeps the spans that are sampled. -/
structure Records (p : Provider) : Prop where
  enabled : p.isDisabled = false
  memory : p.exporter = .memory
  unclosed : p.isClosed = false

def keeping (p : Provider) (spans : List Span) : Provider :=
  { p with finished := p.finished ++ spans }

theorem Records.keeping {p : Provider} (h : p.Records) (spans : List Span) :
    (p.keeping spans).Records := ⟨h.enabled, h.memory, h.unclosed⟩

theorem keeping_keeping (p : Provider) (spans more : List Span) :
    (p.keeping spans).keeping more = p.keeping (spans ++ more) := by
  simp [keeping]

theorem finish_of_records {p : Provider} (h : p.Records) {span : Span}
    (hspan : span.isRecording = true) : p.finish span = p.keeping [span] := by
  rw [finish, if_pos ⟨hspan, h.memory, by simp [h.unclosed]⟩]
  rfl

theorem Records.filter {p : Provider} (h : p.Records) :
    (some p).filter (!·.isDisabled) = some p := by
  rw [Option.filter_some, if_pos (by simp [h.enabled])]

end Trace.Provider

namespace Interceptor

variable {ε : Type}

/-- An invocation opens a span of this identity, and the next identifier is used up. -/
def Opens (s : Session ε) (ctx : Option Context) (limits : Limits) (context : SpanContext)
    (parent : Option Nat) : Prop :=
  ∀ options : CommandOptions, ∃ ids : Ids, ids.span = s.ids.span + 1 ∧
    start options ctx s =
      ({ context
         parent
         name := spanName options.path
         scope := Scope.cli.name
         scopeVersion := s.loaded.instrumentation.scopeVersion
         limits
         isRecording := true
         attributes := Span.storeAll limits [] (s.startAttributes (s.contextOr ctx)) },
       { s with ids })

/-- Under a valid span, another one opens in the same trace. -/
theorem opens_of_valid {s : Session ε} {ctx : Option Context} {p : Provider}
    (hp : s.provider = some p) (hrecords : p.Records)
    (hvalid : (s.contextOr ctx).active.isValid = true)
    (hsampled : (s.contextOr ctx).active.sampled = true) :
    Opens s ctx p.limits ⟨(s.contextOr ctx).active.traceId, s.ids.span + 1, true⟩
      (some (s.contextOr ctx).active.spanId) := by
  intro options
  refine ⟨{ s.ids with span := s.ids.span + 1 }, rfl, ?_⟩
  have hsamples : p.samples (s.contextOr ctx).active (s.contextOr ctx).active.traceId = true := by
    rw [Provider.samples, if_pos hvalid, hsampled]
  unfold start Session.startSpan
  rw [hp, hrecords.filter]
  simp only [hvalid, if_true, Ids.nextSpan, hsamples]
  rw [Span.setAttributes_of_recording rfl]

/-- Under none, a new trace begins. -/
theorem opens_of_invalid {s : Session ε} {ctx : Option Context} {p : Provider}
    (hp : s.provider = some p) (hrecords : p.Records)
    (hinvalid : (s.contextOr ctx).active.isValid = false)
    (hsampled : p.samples (s.contextOr ctx).active s.ids.nextTrace.1 = true) :
    Opens s ctx p.limits ⟨s.ids.nextTrace.1, s.ids.span + 1, true⟩ none := by
  have hspan : s.ids.nextTrace.2.span = s.ids.span := by
    unfold Ids.nextTrace
    cases s.ids.reserved <;> rfl
  intro options
  refine ⟨{ s.ids.nextTrace.2 with span := s.ids.span + 1 }, rfl, ?_⟩
  unfold start Session.startSpan
  rw [hp, hrecords.filter]
  simp only [hinvalid, Bool.false_eq_true, if_false, Ids.nextSpan, hsampled, hspan]
  rw [Span.setAttributes_of_recording rfl]

/-! ## One invocation -/

theorem startAttributes_eq (s : Session ε) (ctx : Context) :
    s.startAttributes ctx =
      ctx.baggageAttributes ++ runAttributes s.runId := by
  unfold Session.startAttributes runAttributes
  rfl

variable {s : Session ε} {ctx : Option Context} {limits : Limits} {context : SpanContext}
  {parent : Option Nat}

theorem spanOf_of_opens (hopen : Opens s ctx limits context parent) (options : CommandOptions) :
    spanOf options ctx s =
      { context
        parent
        name := spanName options.path
        scope := Scope.cli.name
        scopeVersion := s.loaded.instrumentation.scopeVersion
        limits
        isRecording := true
        attributes := Span.storeAll limits []
          (s.startAttributes (s.contextOr ctx) ++ described options) } := by
  obtain ⟨ids, -, hstart⟩ := hopen options
  rw [spanOf, describe_eq, hstart, Span.setAttributes_of_recording rfl, Span.storeAll_append]

/-- The finished span of an invocation whose action ended like this. -/
theorem span_of_opens (hopen : Opens s ctx limits context parent) (domains : List Domain)
    (settings : Settings) {above : List Visit}
    (hbaggage : (s.contextOr ctx).baggage = Visit.entryBaggage above) (v : Visit) :
    (settledSpan domains settings (spanOf v.options ctx s) v.ending).setAttributes
        (v.used settings).value =
      v.span limits s.runId domains settings s.loaded.instrumentation.scopeVersion context parent
        above := by
  rw [spanOf_of_opens hopen, settledSpan_eq domains settings rfl, if_pos rfl, startAttributes_eq,
    Visit.baggageAttributes_of_entry hbaggage]
  simp only [Visit.span, Visit.writes, Visit.ownWrites, Visit.entryAttributes]
  rw [← Span.storeAll_append]
  simp only [List.append_assoc]

/-- What runs inside finds everything as it was but the context and the identifiers. -/
theorem inside_of_opens (hopen : Opens s ctx limits context parent) (options : CommandOptions) :
    (inside options ctx s).provider = s.provider ∧ (inside options ctx s).runId = s.runId ∧
      (inside options ctx s).notes = s.notes ∧
      (inside options ctx s).ids.span = s.ids.span + 1 ∧
      (inside options ctx s).current = contextInside options ctx s := by
  obtain ⟨ids, hids, hstart⟩ := hopen options
  unfold inside
  rw [hstart]
  exact ⟨rfl, rfl, rfl, hids, rfl⟩

/-- The context inside belongs to the span, and has the entry of what runs inside. -/
theorem contextInside_of_opens (hopen : Opens s ctx limits context parent)
    {above : List Visit}
    (hbaggage : (s.contextOr ctx).baggage = Visit.entryBaggage above) (v : Visit) :
    (contextInside v.options ctx s).active = context ∧
      (contextInside v.options ctx s).baggage = Visit.entryBaggage (v :: above) := by
  obtain ⟨ids, -, hstart⟩ := hopen v.options
  unfold contextInside innerContext
  rw [hstart]
  cases hchild : v.options.isChild with
  | true =>
      have hentry : Visit.entry (v :: above) = Visit.entry above := by
        unfold Visit.entry
        rw [List.find?_cons_of_neg (by simp [hchild])]
      rw [Visit.entryBaggage, hentry]
      exact ⟨rfl, hbaggage⟩
  | false =>
      have hentry : Visit.entry (v :: above) = some (spanName v.options.path) := by
        unfold Visit.entry
        rw [List.find?_cons_of_pos (by simp [hchild])]
        rfl
      rw [Visit.entryBaggage, hentry]
      refine ⟨rfl, ?_⟩
      simp only [Bool.false_eq_true, if_false, Context.withBaggage, Context.withActive,
        List.foldl_cons, List.foldl_nil]
      rw [hbaggage, Visit.entryBaggage]
      cases Visit.entry above with
      | none => rfl
      | some name => exact if_pos rfl

end Interceptor

/-- The session in which the span of a visit ends, with all that is logged on the way out. -/
def Visit.logged {ε : Type} (domains : List Domain) (settings : Settings) (v : Visit)
    (s : Session ε) : Session ε :=
  (Interceptor.settled domains settings s v.ending).log (v.used settings).records

namespace Course

variable {ε : Type} {s : Session ε} {ctx : Option Context} {limits : Limits}
  {context : SpanContext} {parent : Option Nat}

theorem invocation_eq (read : Usage × ε → Usage) (domains : List Domain) (settings : Settings)
    (asChild : Bool) (ctx : Option Context) (options : CommandOptions)
    (act : Action (Session ε)) :
    invocation read domains settings asChild ctx options act =
      Action.run [Interceptor.factory (fun s => read s.notes) domains settings] ctx
        (optionsOf asChild options) act := by
  cases asChild <;> rfl

theorem outcomeOf_invocation (domains : List Domain) (settings : Settings)
    {read : Usage × ε → Usage} {asChild : Bool} {options : CommandOptions}
    {act : Action (Session ε)} {above : List Visit} {o : Except Failure Answer}
    {after : Session ε}
    (hopen : Interceptor.Opens s ctx limits context parent)
    (hbaggage : (s.contextOr ctx).baggage = Visit.entryBaggage above)
    (hinside : outcomeOf
      (act (some (Interceptor.contextInside (optionsOf asChild options) ctx s)))
      (Interceptor.inside (optionsOf asChild options) ctx s) = (o, after))
    (hvalues : ∀ e ∈ read after.notes, IsSpanFact e) :
    let v : Visit := ⟨optionsOf asChild options, o, read after.notes⟩
    outcomeOf (invocation read domains settings asChild ctx options act) s =
      (ended context.traceText o,
       (v.logged domains settings (after.withCurrent s.current)).endSpan
        (v.span limits s.runId domains settings s.loaded.instrumentation.scopeVersion context parent
          above)) := by
  intro v
  have hused : normalize settings (read (after.withCurrent s.current).notes) =
      .ok (v.used settings) := Visit.used_eq (v := v) hvalues
  have hspan := Interceptor.span_of_opens hopen domains settings hbaggage v
  have hended : (Interceptor.ending (Interceptor.spanOf (optionsOf asChild options) ctx s) o).map
      Action.resultOf = ended context.traceText o := by
    rw [Interceptor.spanOf_of_opens hopen]
    cases o <;> rfl
  rw [invocation_eq, Interceptor.outcomeOf_chain, Interceptor.outcomeOf_run, hinside,
    Interceptor.outcomeOf_leave_ok domains _ _ hused]
  exact Prod.ext hended (congrArg
    (fun x => (v.logged domains settings (after.withCurrent s.current)).endSpan x) hspan)

end Course

/-! ## Trees of spans -/

/-- What a span should say of its visit and of its place below the spans of other visits. -/
structure Placed (domains : List Domain) (traceId : Nat) (above : List (Visit × Span))
    (x : Visit × Span) : Prop where
  name : x.2.name = spanName x.1.options.path
  parent : x.2.parent = above.head?.map (·.2.context.spanId)
  trace : x.2.context.traceId = traceId
  entry : x.2.attributes.lookup AttributeName.cmdEntry.key =
    (Visit.entry (above.map Prod.fst)).map .text
  status : x.2.status = Interceptor.statusOf domains x.1.ending

/-- The state of a session between invocations that the nearest visit above makes. -/
structure Within {ε : Type} (limits : Limits) (traceId : Nat) (above : List (Visit × Span))
    (s : Session ε) : Prop where
  provider : ∃ p, s.provider = some p ∧ p.Records ∧ p.limits = limits
  active : above.head?.map (·.2.context) = some s.current.active
  valid : s.current.active.isValid = true
  sampled : s.current.active.sampled = true
  trace : s.current.active.traceId = traceId
  baggage : s.current.baggage = Visit.entryBaggage (above.map Prod.fst)

/-- What happens to a session while the visits of a tree are made: their spans are kept, the
identifiers are used up one after the other, and the rest that matters stays. -/
structure Leaves {ε : Type} (s s' : Session ε) (tree : Forest (Visit × Span)) : Prop where
  current : s'.current = s.current
  runId : s'.runId = s.runId
  provider : s'.provider = s.provider.map (·.keeping (tree.postorder.map Prod.snd))
  identifiers : tree.preorder.map (·.2.context.spanId) =
    List.range' (s.ids.span + 1) tree.preorder.length
  next : s'.ids.span = s.ids.span + tree.preorder.length

section Trees

variable {ε : Type} {limits : Limits} {traceId : Nat} {above : List (Visit × Span)}
  {s s' s'' : Session ε}

theorem Leaves.refl (s : Session ε) : Leaves s s .nil where
  current := rfl
  runId := rfl
  provider := by
    cases h : s.provider with
    | none => rfl
    | some p => simp [Provider.keeping, Forest.postorder]
  identifiers := rfl
  next := rfl

theorem Leaves.within {tree : Forest (Visit × Span)} (h : Leaves s s' tree)
    (hs : Within limits traceId above s) : Within limits traceId above s' := by
  obtain ⟨p, hp, hrecords, hlimits⟩ := hs.provider
  refine ⟨⟨_, ?_, hrecords.keeping (tree.postorder.map Prod.snd), hlimits⟩, ?_, ?_, ?_, ?_, ?_⟩
  · rw [h.provider, hp]
    rfl
  · rw [h.current, hs.active]
  · rw [h.current, hs.valid]
  · rw [h.current, hs.sampled]
  · rw [h.current, hs.trace]
  · rw [h.current, hs.baggage]

theorem Leaves.distinct {tree : Forest (Visit × Span)} (h : Leaves s s' tree) :
    (tree.postorder.map (·.2.context.spanId)).Nodup := by
  have hpreorder : (tree.preorder.map (·.2.context.spanId)).Nodup := by
    rw [h.identifiers]
    exact List.nodup_range'
  exact (tree.preorder_perm_postorder.map _).nodup_iff.1 hpreorder

/-- One tree, and then the trees beside it. -/
theorem Leaves.beside {x : Visit × Span} {inside rest : Forest (Visit × Span)}
    (h : Leaves s s' (.cons x inside .nil)) (h' : Leaves s' s'' rest) :
    Leaves s s'' (.cons x inside rest) where
  current := h'.current.trans h.current
  runId := h'.runId.trans h.runId
  provider := by
    rw [h'.provider, h.provider]
    cases s.provider with
    | none => rfl
    | some p => simp [Provider.keeping, Forest.postorder]
  identifiers := by
    have hfirst := h.identifiers
    have hnext := h.next
    simp only [Forest.preorder, List.append_nil, List.map_cons, List.length_cons] at hfirst hnext
    simp only [Forest.preorder, List.cons_append, List.map_cons, List.map_append,
      List.length_cons, List.length_append]
    have hshift : s.ids.span + (inside.preorder.length + 1) + 1 =
        s.ids.span + 1 + (inside.preorder.length + 1) := by omega
    rw [← List.cons_append, hfirst, h'.identifiers, hnext, hshift, List.range'_append_1,
      Nat.add_right_comm]
  next := by
    rw [h'.next, h.next]
    simp only [Forest.preorder, List.append_nil, List.cons_append, List.length_cons,
      List.length_append]
    omega

theorem placed_span {runId : Option String} {domains : List Domain} {settings : Settings}
    {scopeVersion : String} {v : Visit} {context : SpanContext} {parent : Option Nat}
    (hfits : v.Fits limits runId domains settings (above.map Prod.fst))
    (hparent : parent = above.head?.map (·.2.context.spanId))
    (htrace : context.traceId = traceId) :
    Placed domains traceId above
      (v, v.span limits runId domains settings scopeVersion context parent
        (above.map Prod.fst)) where
  name := rfl
  parent := hparent
  trace := htrace
  entry := Visit.lookup_cmdEntry hfits scopeVersion context parent
  status := rfl

/-- Wherever it runs below spans of a trace, the course leaves the spans that are planned for it. -/
def Course.Traced (read : Usage × ε → Usage) (domains : List Domain) (settings : Settings)
    (limits : Limits) (traceId : Nat) (c : Course ε) : Prop :=
  ∀ ⦃above : List (Visit × Span)⦄ ⦃s : Session ε⦄, Within limits traceId above s →
    (c.plan read (Course.traceTextOf traceId) s.notes).visits.Each
      (Visit.Fits limits s.runId domains settings) (above.map Prod.fst) →
    ∃ (tree : Forest (Visit × Span)) (s' : Session ε),
      outcomeOf (c.action read domains settings (some s.current)) s =
        ((c.plan read (Course.traceTextOf traceId) s.notes).outcome, s') ∧
      s'.notes = (c.plan read (Course.traceTextOf traceId) s.notes).notes ∧
      tree.map Prod.fst = (c.plan read (Course.traceTextOf traceId) s.notes).visits ∧
      tree.Each (Placed domains traceId) above ∧ Leaves s s' tree

section Visits

variable {ctx : Option Context} {parent : Option Nat} {p : Provider} {v : Visit} {span : Span}

/-- An invocation takes the session one level further down. -/
theorem within_inside (hp : s.provider = some p) (hrecords : p.Records)
    (hopen : Interceptor.Opens s ctx p.limits ⟨traceId, s.ids.span + 1, true⟩ parent)
    (htrace : traceId ≠ 0)
    (hbaggage : (s.contextOr ctx).baggage = Visit.entryBaggage (above.map Prod.fst))
    (hspan : span.context = ⟨traceId, s.ids.span + 1, true⟩) :
    Within p.limits traceId ((v, span) :: above) (Interceptor.inside v.options ctx s) := by
  obtain ⟨hprovider, -, -, -, hcurrent⟩ := Interceptor.inside_of_opens hopen v.options
  obtain ⟨hactive, hinner⟩ := Interceptor.contextInside_of_opens hopen hbaggage v
  refine ⟨⟨p, hprovider.trans hp, hrecords, rfl⟩, ?_, ?_, ?_, ?_, ?_⟩
  · rw [hcurrent, hactive, List.head?_cons, Option.map_some, hspan]
  · rw [hcurrent, hactive]
    simp [SpanContext.isValid, htrace]
  · rw [hcurrent, hactive]
  · rw [hcurrent, hactive]
  · rw [hcurrent, hinner, List.map_cons]

/-- At its end it leaves its own span behind those of what ran inside. -/
theorem leaves_of_inside (domains : List Domain) (settings : Settings)
    (hp : s.provider = some p) (hrecords : p.Records)
    (hopen : Interceptor.Opens s ctx p.limits ⟨traceId, s.ids.span + 1, true⟩ parent)
    (hspan : span.context = ⟨traceId, s.ids.span + 1, true⟩)
    (hrecording : span.isRecording = true) {tree : Forest (Visit × Span)} {after : Session ε}
    (h : Leaves (Interceptor.inside v.options ctx s) after tree) :
    Leaves s ((v.logged domains settings (after.withCurrent s.current)).endSpan span)
      (.cons (v, span) tree .nil) := by
  obtain ⟨hprovider, hrunId, -, hids, -⟩ := Interceptor.inside_of_opens hopen v.options
  refine ⟨rfl, h.runId.trans hrunId, ?_, ?_, ?_⟩
  · have hkept : after.provider.map (·.finish span) =
        s.provider.map (·.keeping (tree.postorder.map Prod.snd ++ [span])) := by
      rw [h.provider, hprovider, hp, Option.map_some, Option.map_some, Option.map_some,
        Provider.finish_of_records (hrecords.keeping _) hrecording, Provider.keeping_keeping]
    rw [Forest.postorder, Forest.postorder, List.map_append]
    exact hkept
  · have hbelow := h.identifiers
    rw [hids] at hbelow
    rw [Forest.preorder, Forest.preorder, List.append_nil, List.map_cons, List.length_cons,
      List.range'_succ, hbelow, hspan]
  · have hlast : after.ids.span = s.ids.span + 1 + tree.preorder.length := by
      rw [h.next, hids]
    have hids' : ((v.logged domains settings (after.withCurrent s.current)).endSpan span).ids.span =
        after.ids.span := rfl
    rw [Forest.preorder, Forest.preorder, List.append_nil, List.length_cons, hids']
    omega

end Visits

/-- An invocation of a traced course leaves one tree. -/
theorem outcomeOf_visit {read : Usage × ε → Usage} {domains : List Domain} {settings : Settings}
    {inside : Course ε} {asChild : Bool} {options : CommandOptions} {ctx : Option Context}
    {parent : Option Nat} {p : Provider} {plan : Plan ε} {v : Visit}
    (hinside : inside.Traced read domains settings p.limits traceId)
    (hp : s.provider = some p) (hrecords : p.Records)
    (hopen : Interceptor.Opens s ctx p.limits ⟨traceId, s.ids.span + 1, true⟩ parent)
    (htrace : traceId ≠ 0) (hparent : parent = above.head?.map (·.2.context.spanId))
    (hbaggage : (s.contextOr ctx).baggage = Visit.entryBaggage (above.map Prod.fst))
    (hplan : inside.plan read (Course.traceTextOf traceId) s.notes = plan)
    (hv : v = ⟨Course.optionsOf asChild options, plan.outcome, read plan.notes⟩)
    (hfits : v.Fits p.limits s.runId domains settings (above.map Prod.fst))
    (hbelow : plan.visits.Each (Visit.Fits p.limits s.runId domains settings)
      (v :: above.map Prod.fst)) :
    ∃ (span : Span) (tree : Forest (Visit × Span)) (s' : Session ε),
      outcomeOf (Course.invocation read domains settings asChild ctx options
        (inside.action read domains settings)) s =
          (Course.ended (Course.traceTextOf traceId) plan.outcome, s') ∧
      s'.notes = plan.notes ∧ tree.map Prod.fst = plan.visits ∧
      Placed domains traceId above (v, span) ∧
      tree.Each (Placed domains traceId) ((v, span) :: above) ∧
      Leaves s s' (.cons (v, span) tree .nil) := by
  -- The span as it will be when it ends; what runs inside is placed below it.
  let span := v.span p.limits s.runId domains settings s.loaded.instrumentation.scopeVersion
    ⟨traceId, s.ids.span + 1, true⟩ parent (above.map Prod.fst)
  obtain ⟨-, hrunId, hnotes, -, hcurrent⟩ := Interceptor.inside_of_opens hopen v.options
  have hwithin : Within p.limits traceId ((v, span) :: above)
      (Interceptor.inside v.options ctx s) :=
    within_inside hp hrecords hopen htrace hbaggage rfl
  rw [← hnotes] at hplan
  rw [← hrunId, ← hplan] at hbelow
  obtain ⟨tree, after, hrun, hafter, hmap, heach, hleaves⟩ := hinside hwithin hbelow
  rw [hplan] at hrun hafter hmap
  rw [hcurrent] at hrun
  subst hv
  have hvalues : ∀ e ∈ read after.notes, IsSpanFact e := by
    rw [hafter]
    exact hfits.values
  have hinvocation := Course.outcomeOf_invocation domains settings hopen hbaggage hrun hvalues
  rw [hafter] at hinvocation
  exact ⟨span, tree, _, hinvocation, hafter, hmap, placed_span hfits hparent rfl, heach,
    leaves_of_inside domains settings hp hrecords hopen rfl rfl hleaves⟩

theorem Within.parent (h : Within limits traceId above s) :
    some s.current.active.spanId = above.head?.map (·.2.context.spanId) := by
  have hactive := congrArg (Option.map SpanContext.spanId) h.active
  rw [Option.map_map] at hactive
  exact hactive.symm

/-- Every course is traced, by induction on it: what it does next begins in the state in which it
began itself. -/
theorem Course.traced (read : Usage × ε → Usage) (domains : List Domain) (settings : Settings)
    (limits : Limits) (htrace : traceId ≠ 0) (c : Course ε) :
    c.Traced read domains settings limits traceId := by
  induction c with
  | finish outcome =>
      intro above s hs hfits
      exact ⟨.nil, s, outcomeOf_conclude outcome s, rfl, rfl, trivial, Leaves.refl s⟩
  | note change next ih =>
      intro above s hs hfits
      have hnoted : Within limits traceId above (s.withNotes (change s.notes)) :=
        ⟨hs.provider, hs.active, hs.valid, hs.sampled, hs.trace, hs.baggage⟩
      obtain ⟨tree, s', hrun, hnotes, hmap, heach, hleaves⟩ := ih (change s.notes) hnoted hfits
      refine ⟨tree, s', ?_, hnotes, hmap, heach, ?_⟩
      · rw [Course.action, outcomeOf_bind_ok (outcomeOf_modify ..),
          outcomeOf_bind_ok (outcomeOf_get _)]
        exact hrun
      · exact ⟨hleaves.current, hleaves.runId, hleaves.provider, hleaves.identifiers, hleaves.next⟩
  | invoke asChild options passes inside next ihi ihn =>
      intro above s hs hfits
      obtain ⟨p, hp, hrecords, rfl⟩ := hs.provider
      -- Whether or not the context is passed on, it is the current one.
      have hctx : s.contextOr (if passes then some s.current else none) = s.current := by
        cases passes <;> rfl
      have hvalid : (s.contextOr (if passes then some s.current else none)).active.isValid =
          true := by rw [hctx, hs.valid]
      have hsampled : (s.contextOr (if passes then some s.current else none)).active.sampled =
          true := by rw [hctx, hs.sampled]
      have hbaggage : (s.contextOr (if passes then some s.current else none)).baggage =
          Visit.entryBaggage (above.map Prod.fst) := by rw [hctx, hs.baggage]
      have hopen := Interceptor.opens_of_valid hp hrecords hvalid hsampled
      rw [hctx, hs.trace] at hopen
      rw [Course.plan] at hfits ⊢
      obtain ⟨span, tree, s', hrun, hnotes, hmap, hplaced, heach, hleaves⟩ :=
        outcomeOf_visit ihi hp hrecords hopen htrace hs.parent hbaggage rfl rfl hfits.1 hfits.2.1
      have hrest := hfits.2.2
      rw [← hnotes, ← hleaves.runId] at hrest
      obtain ⟨rest, s'', hrun', hnotes', hmap', heach', hleaves'⟩ :=
        ihn _ (hleaves.within hs) hrest
      rw [hnotes] at hrun' hnotes' hmap'
      rw [hleaves.current] at hrun'
      refine ⟨.cons (_, span) tree rest, s'', ?_, hnotes', ?_, ⟨hplaced, heach, heach'⟩,
        hleaves.beside hleaves'⟩
      · rw [Course.action, outcomeOf_bind_ok (outcomeOf_attempt ..), hrun]
        exact hrun'
      · rw [Forest.map, hmap, hmap']

/-- The spans that an invocation leaves behind with which a trace begins. There is one for each
visit, kept where the visit ends; each of them has the place and the entry of its visit, and the
status of how its action ended. -/
theorem spans_of_nested_invocations (read : Usage × ε → Usage) (domains : List Domain)
    (settings : Settings) (asChild : Bool) (options : CommandOptions) (course : Course ε)
    {ctx : Option Context} {p : Provider} (hp : s.provider = some p) (hrecords : p.Records)
    (hactive : (s.contextOr ctx).active.isValid = false)
    (hbaggage : (s.contextOr ctx).baggage = []) (htrace : s.ids.nextTrace.1 ≠ 0)
    (hsampled : p.samples (s.contextOr ctx).active s.ids.nextTrace.1 = true)
    (hfits : (course.visits read asChild options s).Each
      (Visit.Fits p.limits s.runId domains settings) []) :
    ∃ (tree : Forest (Visit × Span)) (s' : Session ε),
      outcomeOf (Course.invocation read domains settings asChild ctx options
          (course.action read domains settings)) s =
        (Course.ended (Course.traceTextOf s.ids.nextTrace.1)
          (course.plan read (Course.traceTextOf s.ids.nextTrace.1) s.notes).outcome, s') ∧
      tree.map Prod.fst = course.visits read asChild options s ∧
      s'.finished = s.finished ++ tree.postorder.map Prod.snd ∧
      tree.Each (Placed domains s.ids.nextTrace.1) [] ∧
      (tree.postorder.map (·.2.context.spanId)).Nodup ∧
      s'.current = s.current := by
  have hopen := Interceptor.opens_of_invalid hp hrecords hactive hsampled
  have hinside := Course.traced read domains settings p.limits htrace course
  have hparent : (none : Option Nat) =
      ([] : List (Visit × Span)).head?.map (·.2.context.spanId) := rfl
  obtain ⟨span, tree, s', hrun, -, hmap, hplaced, heach, hleaves⟩ :=
    outcomeOf_visit hinside hp hrecords hopen htrace hparent hbaggage rfl rfl hfits.1 hfits.2.1
  refine ⟨.cons (_, span) tree .nil, s', hrun, ?_, ?_, ⟨hplaced, heach, trivial⟩,
    hleaves.distinct, hleaves.current⟩
  · rw [Forest.map, hmap]
    rfl
  · rw [Session.finished, Session.finished, hleaves.provider, hp]
    rfl

end Trees

/-- A release builds something, which fails, and then logs in, which fails over a token. The release
goes on after both. -/
def releaseCourse : Course Unit :=
  .note (fun n => ([(.text "files.changed", .int 3)], n.2)) fun _ =>
    .invoke true { path := "cmdtrace release build" } true
      (.finish (.error (Failure.single (Failure.Node.tool "/usr/bin/make" 2)))) fun _ =>
    .invoke false { path := "cmdtrace login" } false
      (.invoke true { path := "cmdtrace login token" } true
        (.finish (.error (Failure.single (Failure.Node.general "ValueError" "expired"))))
        .finish) fun _ =>
    .finish (.ok .nothing)

theorem releaseCourse_spans :
    ∃ s', outcomeOf (Course.invocation (·.1) wellKnownDomains usualSettings false none
        { path := "cmdtrace release" } (releaseCourse.action (·.1) wellKnownDomains usualSettings))
        Session.recording =
          (.ok (.result { traceId := some "00000000000000000000000000000001" }), s') ∧
      s'.finished.map (·.name) =
        ["cmd.release.build", "cmd.login.token", "cmd.login", "cmd.release"] ∧
      s'.finished.map (·.status) =
        [.error "tool.make.failed", .error "UnknownError", .error "UnknownError", .unset] := by
  have hfew : ∀ (above : List Visit) (path : String) (isChild : Bool)
      (ending : Except Failure Answer),
      Visit.Fits ⟨some Limits.usualCount, none⟩ none wellKnownDomains usualSettings above
        ⟨{ path, isChild }, ending, [(.text "files.changed", .int 3)]⟩ := by
    intro above path isChild ending
    refine Visit.fits_of_few ?_ ?_ (show 1 + 9 ≤ Limits.usualCount by decide)
    · intro e he
      obtain rfl := List.mem_singleton.1 he
      exact ⟨⟨_, rfl⟩, rfl⟩
    · simp [Value.display, AttributeName.key]
  have hfits : (releaseCourse.visits (·.1) false { path := "cmdtrace release" }
      Session.recording).Each
      (Visit.Fits ⟨some Limits.usualCount, none⟩ none wellKnownDomains usualSettings) [] :=
    ⟨hfew .., ⟨hfew .., trivial, hfew .., ⟨hfew .., trivial, trivial⟩, trivial⟩, trivial⟩
  have hprovider : Session.recording.provider = some Provider.recording := rfl
  have hinvalid : (Session.recording.contextOr none).active.isValid = false := rfl
  have htrace : Session.recording.ids.nextTrace.1 ≠ 0 := by decide
  have hsampled : Provider.recording.samples (Session.recording.contextOr none).active
      Session.recording.ids.nextTrace.1 = true := by decide
  obtain ⟨tree, s', hrun, hmap, hfinished, hplaced, -, -⟩ :=
    spans_of_nested_invocations (·.1) wellKnownDomains usualSettings false
      { path := "cmdtrace release" } releaseCourse hprovider ⟨rfl, rfl, rfl⟩ hinvalid rfl
      htrace hsampled hfits
  have hname := Forest.map_snd_postorder Span.name (fun v => spanName v.options.path)
    (hplaced.imp fun _ _ h => h.name)
  have hstatus := Forest.map_snd_postorder Span.status
    (fun v => Interceptor.statusOf wellKnownDomains v.ending)
    (hplaced.imp fun _ _ h => h.status)
  have hended : Course.ended (Course.traceTextOf 1) (.ok .nothing) =
      .ok (.result { traceId := some "00000000000000000000000000000001" }) := by cbv
  rw [hmap] at hname hstatus
  refine ⟨s', hrun.trans (Prod.ext hended rfl), ?_, ?_⟩
  · rw [hfinished, List.map_append, hname]
    cbv
  · rw [hfinished, List.map_append, hstatus]
    cbv

end CommandTelemetry
