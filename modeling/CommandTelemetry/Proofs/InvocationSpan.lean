import CommandTelemetry.Proofs.InterceptorExits

/-!
# One span for each invocation

An invocation may end in four ways: its action answers with nothing or with a result, or it fails,
and a failure is an ordinary one or not. Whichever it is, one span is opened before the action
starts and ended after it is over, what the caller sees is what the action did, and the session is
handed back with the context from before. `OneSpan` lists all of this for one invocation.

Nothing is assumed of the action but that it answers with results. It may open spans of its own,
record facts and leave another context behind, so the account is relative to the session that it
leaves.
-/

namespace CommandTelemetry

open Trace Label Attribute Text

open Script (outcomeOf)

/-! ## Identifiers as texts -/

namespace Text

def hexAlphabet : List Char := "0123456789abcdef".toList

/-- The text shows the lowest digits of a number, the highest of them first. -/
def ShowsHex (width n : Nat) (t : String) : Prop :=
  ∃ ds : List Nat, ds.length = width ∧ Nat.ofDigits 16 ds = n % 16 ^ width ∧
    t.toList.reverse.map some = ds.map (hexAlphabet[·]?)

theorem hexAlphabet_getElem? : ∀ d < 16, hexAlphabet[d]? = some (hexDigit d) := by decide

theorem showsHex_hex (width n : Nat) : ShowsHex width n (hex width n) := by
  unfold ShowsHex hex
  rw [String.toList_ofList]
  induction width generalizing n with
  | zero => exact ⟨[], rfl, by simp [Nat.mod_one], rfl⟩
  | succ width ih =>
      obtain ⟨ds, hlength, hvalue, hdigits⟩ := ih (n / 16)
      refine ⟨n % 16 :: ds, by rw [List.length_cons, hlength], ?_, ?_⟩
      · rw [Nat.ofDigits_cons, hvalue, Nat.pow_succ', Nat.mod_mul]
      · have hlast := hexAlphabet_getElem? (n % 16) (Nat.mod_lt _ (by decide))
        rw [hexDigits, List.reverse_append, List.reverse_singleton, List.singleton_append,
          List.map_cons, List.map_cons, hdigits, hlast]

end Text

namespace Interceptor

variable {ε : Type}

/-! ## The session before the action -/

theorem start_provider (options : CommandOptions) (ctx : Option Context) (s : Session ε) :
    (start options ctx s).2.provider = s.provider := by
  unfold start Session.startSpan
  cases s.provider.filter (!·.isDisabled) <;> rfl

/-- A span that records has the identifier that was next. -/
theorem start_ids {options : CommandOptions} {ctx : Option Context} {s : Session ε}
    (h : (start options ctx s).1.isRecording = true) :
    (start options ctx s).1.context.spanId = s.ids.span + 1 ∧
      (start options ctx s).2.ids.span = s.ids.span + 1 := by
  unfold start Session.startSpan at h ⊢
  cases hp : s.provider.filter (!·.isDisabled) with
  | none =>
      rw [hp] at h
      cases h
  | some p =>
      simp only []
      obtain ⟨attrs, hattrs⟩ := Span.setAttributes_eq _ (s.startAttributes (s.contextOr ctx))
      rw [hattrs]
      have hspan : ∀ ids : Ids, ids.nextTrace.2.span = ids.span := by
        intro ids
        unfold Ids.nextTrace
        cases ids.reserved <;> rfl
      by_cases hvalid : (s.contextOr ctx).active.isValid = true
      · simp only [hvalid, if_true, Ids.nextSpan, and_self]
      · simp only [hvalid, if_false, Bool.false_eq_true, Ids.nextSpan, hspan, and_self]

/-! ## The account of an invocation -/

/-- How the rest of the chain ends inside the span, and the session that it leaves. -/
def inner (options : CommandOptions) (ctx : Option Context) (next : Action (Session ε))
    (s : Session ε) : Except Failure Answer × Session ε :=
  outcomeOf (next (some (contextInside options ctx s))) (inside options ctx s)

/-- The span of an invocation as it ends, where `attrs` became of what was recorded about use. -/
def endedSpan (domains : List Domain) (settings : Attribute.Settings) (options : CommandOptions)
    (ctx : Option Context) (s : Session ε) (o : Except Failure Answer) (attrs : Attributes) : Span :=
  { spanOf options ctx s with
    attributes := Span.storeAll (spanOf options ctx s).limits (spanOf options ctx s).attributes
      (writesOf domains settings o ++ attrs)
    status := statusOf domains o }

/-- The session as it is when the recorded use is read, where the action left `left`. -/
def closing (domains : List Domain) (settings : Attribute.Settings) (s left : Session ε)
    (o : Except Failure Answer) : Session ε :=
  settled domains settings (left.withCurrent s.current) o

section Closing

variable {usage : Session ε → Usage} (domains : List Domain) {settings : Attribute.Settings}
  {options : CommandOptions} {ctx : Option Context} {next : Action (Session ε)}
  {s left : Session ε} {o : Except Failure Answer}

theorem outcomeOf_run_ok (hinner : inner options ctx next s = (o, left))
    (hrecording : (spanOf options ctx s).isRecording = true) {used : Logged Attributes}
    (hused : normalize settings (usage (closing domains settings s left o)) = .ok used) :
    outcomeOf (run usage domains settings options ctx next) s =
      (ending (spanOf options ctx s) o,
       ((closing domains settings s left o).log used.records).endSpan
        (endedSpan domains settings options ctx s o used.value)) := by
  have hclosed := settledSpan_eq domains settings (spanOf_name_status options ctx s).2 o used.value
  rw [if_pos hrecording] at hclosed
  rw [outcomeOf_run, ← inner, hinner]
  simp only []
  rw [outcomeOf_leave_ok domains _ _ hused, hclosed]
  rfl

theorem finished_endedSpan (hrecording : (spanOf options ctx s).isRecording = true)
    (hkeeps : left.keeps = true) (used : Logged Attributes) :
    (((closing domains settings s left o).log used.records).endSpan
        (endedSpan domains settings options ctx s o used.value)).finished =
      left.finished ++ [endedSpan domains settings options ctx s o used.value] := by
  have hstill : ((closing domains settings s left o).log used.records).keeps = true := hkeeps
  have hspan : (endedSpan domains settings options ctx s o used.value).isRecording = true :=
    hrecording
  rw [Session.finished_endSpan, hspan, hstill]
  rfl

end Closing

/-- An invocation that began in `s` has ended as `outcome` in `after`. Its action had ended as `o`
and left the session `left`, and `span` is the span of the invocation. -/
structure OneSpan (domains : List Domain) (options : CommandOptions) (ctx : Option Context)
    (s left after : Session ε) (o outcome : Except Failure Answer) (span : Span) : Prop where
  name : span.name = spanName options.path
  identity : span.context = (start options ctx s).1.context
  /-- One identifier is used up before the action starts, and none after it. -/
  opened : span.context.spanId = s.ids.span + 1 ∧
    (inside options ctx s).ids.span = s.ids.span + 1 ∧ after.ids = left.ids
  ended : (inside options ctx s).finished = s.finished ∧
    after.finished = left.finished ++ [span]
  failed : ∀ d, span.status = .error d ↔
    ∃ f, o = .error f ∧ f.isOrdinary = true ∧ d = (f.classify domains).code
  unset : span.status = .unset ↔ ∀ f, o = .error f → f.isOrdinary = false
  raised : ∀ f, outcome = .error f ↔ o = .error f
  empty : o = .ok .nothing →
    outcome = .ok (.result { traceId := some span.context.traceText })
  stamped : ∀ r, o = .ok (.result r) →
    outcome = .ok (.result { r with traceId := some span.context.traceText })
  traceText : ShowsHex 32 span.context.traceId span.context.traceText
  current : after.current = s.current
  /-- The last trace is set before the action starts, and not again after it. -/
  lastTrace : (inside options ctx s).lastTraceId = some span.context.traceText ∧
    after.lastTraceId = left.lastTraceId

theorem statusOf_eq_error_iff {domains : List Domain} {o : Except Failure Answer} {d : String} :
    statusOf domains o = .error d ↔
      ∃ f, o = .error f ∧ f.isOrdinary = true ∧ d = (f.classify domains).code := by
  cases o with
  | ok a =>
      constructor
      · intro h
        cases h
      · rintro ⟨f, hf, -⟩
        cases hf
  | error f =>
      simp only [statusOf]
      by_cases hf : f.isOrdinary = true
      · rw [if_pos hf]
        constructor
        · intro h
          exact ⟨f, rfl, hf, (Status.error.inj h).symm⟩
        · rintro ⟨g, hg, -, rfl⟩
          rw [Except.error.inj hg]
      · rw [if_neg hf]
        constructor
        · intro h
          cases h
        · rintro ⟨g, hg, hordinary, -⟩
          rw [← Except.error.inj hg] at hordinary
          exact absurd hordinary hf

theorem statusOf_eq_unset_iff {domains : List Domain} {o : Except Failure Answer} :
    statusOf domains o = .unset ↔ ∀ f, o = .error f → f.isOrdinary = false := by
  cases o with
  | ok a =>
      constructor
      · intro _ f hf
        cases hf
      · intro _
        rfl
  | error f =>
      simp only [statusOf]
      by_cases hf : f.isOrdinary = true
      · rw [if_pos hf]
        constructor
        · intro h
          cases h
        · intro h
          exact absurd hf (Bool.eq_false_iff.1 (h f rfl))
      · rw [if_neg hf]
        constructor
        · intro _ g hg
          rw [← Except.error.inj hg]
          exact Bool.eq_false_iff.2 hf
        · intro _
          rfl

theorem ending_eq_error_iff {span : Span} {o : Except Failure Answer} {f : Failure}
    (hanswer : ∀ v, o ≠ .ok (.value v)) : ending span o = .error f ↔ o = .error f := by
  cases o with
  | error g => exact Iff.rfl
  | ok a =>
      have hvalue : ∀ v, a ≠ .value v := fun v hv => hanswer v (congrArg Except.ok hv)
      obtain ⟨r, hstamp, -⟩ := stamp_of_no_value hvalue span.context.traceText
      rw [ending, hstamp]
      exact iff_of_false (fun h => by cases h) (fun h => by cases h)

/-- An invocation opens one span and ends it once, tells on it how the action ended, and ends as the
action did. -/
theorem run_ends_one_span (usage : Session ε → Usage) (domains : List Domain)
    (settings : Attribute.Settings) (options : CommandOptions) (ctx : Option Context)
    (next : Action (Session ε)) {s left : Session ε} {o : Except Failure Answer}
    (hinner : inner options ctx next s = (o, left))
    (hanswer : ∀ v, o ≠ .ok (.value v))
    (hrecording : (spanOf options ctx s).isRecording = true) (hkeeps : left.keeps = true)
    (hvalues : ∀ e ∈ usage (closing domains settings s left o), IsSpanFact e) :
    ∃ outcome after span,
      outcomeOf (run usage domains settings options ctx next) s = (outcome, after) ∧
      OneSpan domains options ctx s left after o outcome span := by
  obtain ⟨used, hused⟩ := normalize_ok settings hvalues
  -- The span that is found inside differs in its attributes only from the one that was opened.
  obtain ⟨found, hfound⟩ := spanOf_eq options ctx s
  have hcontext : (spanOf options ctx s).context = (start options ctx s).1.context := by rw [hfound]
  have hname := (spanOf_name_status options ctx s).1
  obtain ⟨hid, hids⟩ := start_ids (isRecording_start hrecording)
  refine ⟨_, _, endedSpan domains settings options ctx s o used.value,
    outcomeOf_run_ok domains hinner hrecording hused, hname, hcontext,
    ⟨by rw [← hid, ← hcontext]; rfl, hids, rfl⟩,
    ⟨?_, finished_endedSpan domains hrecording hkeeps used⟩, fun d => statusOf_eq_error_iff,
    statusOf_eq_unset_iff, fun f => ending_eq_error_iff hanswer, ?_, ?_, showsHex_hex 32 _, rfl,
    ?_, rfl⟩
  · have hprovider : (inside options ctx s).provider = s.provider := start_provider options ctx s
    rw [Session.finished, Session.finished, hprovider]
  · rintro rfl
    rfl
  · rintro r rfl
    rfl
  · exact congrArg (fun c : SpanContext => some c.traceText) hcontext.symm

/-- A build that records what it found, leaves a context of its own behind, and dies of its tool. -/
def failingBuild : Action (Session Unit) := fun _ => do
  modify fun s =>
    { s with
      current := { baggage := [("stray", "1")] }
      usage := s.usage.set (.text "files") (.list [.text "a.c", .text "b.c"]) }
  throw (Failure.single (Failure.Node.tool "/usr/bin/make" 2))

theorem failingBuild_ends_one_span :
    ∃ after span,
      outcomeOf (run (·.usage) wellKnownDomains usualSettings { path := "cmdtrace build" } none
          failingBuild) Session.recording =
          (.error (Failure.single (Failure.Node.tool "/usr/bin/make" 2)), after) ∧
      after.finished = [span] ∧ span.name = "cmd.build" ∧
      span.status = .error "tool.make.failed" ∧ after.current = {} ∧
      after.lastTraceId = some "00000000000000000000000000000001" := by
  obtain ⟨outcome, after, span, hrun, hspan⟩ :=
    run_ends_one_span (·.usage) wellKnownDomains usualSettings { path := "cmdtrace build" } none
      failingBuild (s := Session.recording) rfl (by intro v h; cases h) (by cbv) (by cbv) (by
        intro e he
        obtain rfl := List.mem_singleton.1 he
        exact ⟨⟨_, rfl⟩, rfl⟩)
  have hcode : ((Failure.single (Failure.Node.tool "/usr/bin/make" 2)).classify
      wellKnownDomains).code = "tool.make.failed" := by cbv
  have hoid : outcome = .error (Failure.single (Failure.Node.tool "/usr/bin/make" 2)) :=
    (hspan.raised _).2 rfl
  refine ⟨after, span, by rw [hrun, hoid], ?_, ?_, ?_, hspan.current, ?_⟩
  · exact hspan.ended.2
  · exact hspan.name.trans (by cbv)
  · exact (hspan.failed _).2 ⟨_, rfl, by cbv, hcode.symm⟩
  · exact hspan.lastTrace.2

end Interceptor

end CommandTelemetry
