import CommandTelemetry.Program.Invoke
import CommandTelemetry.Proofs.ExitCategory
import CommandTelemetry.Proofs.InterceptorExits

/-!
# How failed commands are reported

When a command fails, two reports leave the program: its exit code and the description of its span.
This file follows a failure from the command through the interceptor to the caller and shows that
both name the same category.

On the way the failure may be replaced. If the use that was recorded has no normal form, the caller
sees a fault that came up during the failure. The category survives that, and there is no span to
disagree with. In every other run the failure arrives as it left the command.
-/

namespace CommandTelemetry

open Trace Attribute Label

open Script (outcomeOf)

/-- What a failure leaves behind when its span ends: at most this span, and the span if it records
and is kept. -/
theorem finished_after_failure {ε : Type} (domains : List Domain) (settings : Attribute.Settings)
    {f : Failure} (hf : f.isOrdinary = true) {span : Span} (hunset : span.status = .unset)
    (writes : Attributes) (s : Session ε) :
    ∃ spans, (s.endSpan ((Interceptor.settledSpan domains settings span (.error f)).setAttributes
        writes)).finished = s.finished ++ spans ∧
      (∀ x ∈ spans, x.context = span.context ∧ x.name = span.name ∧
        x.status = .error (f.classify domains).code) ∧
      (span.isRecording = true → s.keeps = true → ∃ x, spans = [x]) := by
  have hstatus : Interceptor.statusOf domains (.error f) = .error (f.classify domains).code :=
    if_pos hf
  refine ⟨_, Session.finished_endSpan .., ?_⟩
  rw [Interceptor.settledSpan_eq domains settings hunset, hstatus]
  cases hspan : span.isRecording with
  | false =>
      rw [if_neg Bool.false_ne_true, hspan, Bool.false_and, if_neg Bool.false_ne_true]
      exact ⟨fun x hx => absurd hx List.not_mem_nil, fun h => absurd h Bool.false_ne_true⟩
  | true =>
      rw [if_pos rfl]
      simp only [Bool.true_and]
      refine ⟨fun x hx => ?_, fun _ hkeeps => ⟨_, if_pos hkeeps⟩⟩
      split at hx
      · obtain rfl := List.mem_singleton.1 hx
        exact ⟨rfl, rfl, rfl⟩
      · cases hx

namespace Program

open CommandLine

variable {ε : Type}

/-- The session that the command of an invocation finds. -/
def sessionInside (context : Option RunContext) (i : Invocation (Behaviour ε)) (s : Session ε) :
    Session ε :=
  Interceptor.inside i.options none (s.named (context.map (·.runId)))

/-- The span that the command of an invocation finds. -/
def commandSpan (context : Option RunContext) (i : Invocation (Behaviour ε)) (s : Session ε) :
    Span :=
  Interceptor.spanOf i.options none (s.named (context.map (·.runId)))

/-- The command of an invocation fails; `s'` is the session that it leaves behind, in which the
context from before is the current one again. -/
def Fails (context : Option RunContext) (i : Invocation (Behaviour ε)) (s : Session ε)
    (f : Failure) (s' : Session ε) : Prop :=
  ∃ left, outcomeOf (action i context none) (sessionInside context i s) = (.error f, left) ∧
    s' = left.withCurrent s.current

theorem outcomeOf_report (f : Failure) (s : Session ε) :
    ∃ after, outcomeOf (report f) s = (.ok f.exitCode.number, after) ∧
      after.finished = s.finished := by
  refine ⟨_, rfl, ?_⟩
  unfold nameTrace
  split <;> rfl

/-- What an invocation does once its chain has ended. -/
def afterwards : Except Failure Answer → Effect (Session ε) Int
  | .ok a => render a
  | .error f => if f.isOrdinary then report f else throw f

theorem outcomeOf_invoke_of_run {grammar : Grammar (Behaviour ε)} {context : Option RunContext}
    {chain : List (Factory (Session ε))} {words : List String} {i : Invocation (Behaviour ε)}
    {s s' : Session ε} {o : Except Failure Answer}
    (hparse : Invocation.ofWords grammar s.environment words = .ok i)
    (hrun : outcomeOf (Action.run chain none i.options (action i context))
      (s.named (context.map (·.runId))) = (o, s')) :
    outcomeOf (invoke grammar context chain words) s =
      outcomeOf (afterwards o) (s'.unnamed s (context.map (·.runId))) := by
  unfold invoke
  rw [outcomeOf_bind_ok (outcomeOf_get s), hparse]
  simp only []
  rw [outcomeOf_bind_ok (outcomeOf_attempt ..), outcomeOf_withRunId, hrun]
  cases o <;> rfl

/-- A failure that leaves the chain ends in its exit code. -/
theorem outcomeOf_invoke {grammar : Grammar (Behaviour ε)} {context : Option RunContext}
    {chain : List (Factory (Session ε))} {words : List String} {i : Invocation (Behaviour ε)}
    {s s' : Session ε} {f : Failure}
    (hparse : Invocation.ofWords grammar s.environment words = .ok i)
    (hrun : outcomeOf (Action.run chain none i.options (action i context))
      (s.named (context.map (·.runId))) = (.error f, s'))
    (hf : f.isOrdinary = true) :
    ∃ after, outcomeOf (invoke grammar context chain words) s = (.ok f.exitCode.number, after) ∧
      after.finished = s'.finished := by
  obtain ⟨after, hreport, hfinished⟩ :=
    outcomeOf_report f (s'.unnamed s (context.map (·.runId)))
  refine ⟨after, ?_, by rw [hfinished, Session.finished_unnamed]⟩
  rw [outcomeOf_invoke_of_run hparse hrun, afterwards, if_pos hf]
  exact hreport

/-- The failure of a command leaves the chain as it is, unless the use cannot be recorded. -/
theorem outcomeOf_chain_of_fails (domains : List Domain) (settings : Attribute.Settings)
    (usage : Session ε → Usage) {context : Option RunContext} {i : Invocation (Behaviour ε)}
    {s s' : Session ε} {f : Failure} (h : Fails context i s f s') :
    outcomeOf (Action.run [Interceptor.factory usage domains settings] none i.options
        (action i context)) (s.named (context.map (·.runId))) =
      let told := Interceptor.settled domains settings s' (.error f)
      match normalize settings (usage told) with
      | .ok used =>
        (.error f, (told.log used.records).endSpan
          ((Interceptor.settledSpan domains settings (commandSpan context i s)
            (.error f)).setAttributes used.value))
      | .error g => (.error (f.during (Failure.Node.ofFault g)), told) := by
  obtain ⟨left, hleft, rfl⟩ := h
  have hcurrent : (s.named (context.map (·.runId))).current = s.current := by
    cases context <;> rfl
  have hcommand : ∀ c, outcomeOf (action i context c)
      (Interceptor.inside i.options none (s.named (context.map (·.runId)))) = (.error f, left) :=
    fun _ => hleft
  rw [Interceptor.outcomeOf_chain, Interceptor.outcomeOf_run, hcommand, hcurrent]
  simp only []
  cases hnormal : normalize settings
      (usage (Interceptor.settled domains settings (left.withCurrent s.current) (.error f))) with
  | ok used =>
      rw [Interceptor.outcomeOf_leave_ok domains _ _ hnormal]
      rfl
  | error g =>
      rw [Interceptor.outcomeOf_leave_error domains _ _ hnormal]
      rfl

/-- The exit code `code` and the spans that ended between `s'` and `after` tell the same about a
failure `f` of the command. -/
structure ReportsAgree (domains : List Domain) (settings : Attribute.Settings)
    (usage : Session ε → Usage) (context : Option RunContext) (i : Invocation (Behaviour ε))
    (s s' after : Session ε) (f : Failure) (code : ExitCode) : Prop where
  category : code.category = (f.classify domains).category
  descriptions : ∃ spans, after.finished = s'.finished ++ spans ∧
    ∀ span ∈ spans, ∃ d, span.status = .error d ∧ ErrorCategory.ofDescription d = code.category
  /-- Where the use can be recorded, nothing replaces the failure and its span is kept. -/
  unreplaced : ∀ used,
    normalize settings (usage (Interceptor.settled domains settings s' (.error f))) = .ok used →
    code = f.exitCode ∧
    ((commandSpan context i s).isRecording = true → s'.keeps = true →
      ∃ span, after.finished = s'.finished ++ [span] ∧
        span.context = (commandSpan context i s).context ∧
        span.name = spanName i.options.path ∧
        span.status = .error (f.classify domains).code)

theorem reportsAgree_of_fails {domains : List Domain} {f : Failure} (hforeign : f.IsForeign)
    (hf : f.isOrdinary = true) (settings : Attribute.Settings) (usage : Session ε → Usage)
    {grammar : Grammar (Behaviour ε)} {context : Option RunContext} {words : List String}
    {i : Invocation (Behaviour ε)} {s s' : Session ε}
    (hparse : Invocation.ofWords grammar s.environment words = .ok i)
    (hfails : Fails context i s f s') :
    ∃ code after,
      outcomeOf (invoke grammar context [Interceptor.factory usage domains settings] words) s =
        (.ok (ExitCode.number code), after) ∧
      ReportsAgree domains settings usage context i s s' after f code := by
  have hchain := outcomeOf_chain_of_fails domains settings usage hfails
  have hcategory := Failure.category_exitCode hforeign domains
  simp only [] at hchain
  cases hnormal : normalize settings
      (usage (Interceptor.settled domains settings s' (.error f))) with
  | ok used =>
      rw [hnormal] at hchain
      obtain ⟨after, hrun, hfinished⟩ := outcomeOf_invoke hparse hchain hf
      obtain ⟨hname, hunset⟩ :=
        Interceptor.spanOf_name_status i.options none (s.named (context.map (·.runId)))
      obtain ⟨spans, hspans, htell, hone⟩ := finished_after_failure domains settings hf hunset
        used.value ((Interceptor.settled domains settings s' (.error f)).log used.records)
      have hall := hfinished.trans hspans
      refine ⟨f.exitCode, after, hrun, hcategory, ⟨spans, hall, fun span hmem => ?_⟩,
        fun _ _ => ⟨rfl, fun hrecording hkeeps => ?_⟩⟩
      · refine ⟨_, (htell span hmem).2.2, ?_⟩
        rw [ofDescription_classify, hcategory]
      · obtain ⟨span, rfl⟩ := hone hrecording hkeeps
        obtain ⟨hcontext, hsame, hstatus⟩ := htell span List.mem_cons_self
        exact ⟨span, hall, hcontext, hsame.trans hname, hstatus⟩
  | error g =>
      rw [hnormal] at hchain
      obtain ⟨after, hrun, hfinished⟩ :=
        outcomeOf_invoke hparse hchain (Failure.isOrdinary_during_ofFault f g)
      refine ⟨_, after, hrun, ?_, ⟨[], ?_, ?_⟩, ?_⟩
      · rw [Failure.category_exitCode (Failure.isForeign_during_ofFault f g) domains,
          Failure.category_during_ofFault]
      · rw [hfinished, List.append_nil]
        rfl
      · intro span hmem
        cases hmem
      · intro used h
        rw [hnormal] at h
        cases h

/-- The exit code of a failure and its classification tell the same, and a command that fails with
it is reported accordingly on both sides. -/
theorem exitCode_agrees_with_classification {f : Failure} (hforeign : f.IsForeign)
    (domains : List Domain) :
    (∀ c code, ErrorCategory.exitCode? c = some code →
      (f.exitCode = code ↔ (f.classify domains).category = c)) ∧
    ((f.classify domains).category = .unknown →
      f.exitCode =
        if f.node.isA "ValueError" || f.node.isA "TypeError" then .validationError
        else .generalError) ∧
    ∀ {ε : Type} (settings : Attribute.Settings) (usage : Session ε → Usage)
      {grammar : Grammar (Behaviour ε)} {context : Option RunContext} {words : List String}
      {i : Invocation (Behaviour ε)} {s s' : Session ε},
      f.isOrdinary = true → Invocation.ofWords grammar s.environment words = .ok i →
      Fails context i s f s' →
      ∃ code after,
        outcomeOf (invoke grammar context [Interceptor.factory usage domains settings] words) s =
          (.ok (ExitCode.number code), after) ∧
        ReportsAgree domains settings usage context i s s' after f code := by
  refine ⟨fun c code hcode => ?_, fun hunknown => ?_, ?_⟩
  · rw [ExitCode.category_eq_iff hcode, Failure.category_exitCode hforeign domains]
  · rw [Failure.exitCode_eq hforeign domains, hunknown]
    rfl
  · intro ε settings usage grammar context words i s s' hf hparse hfails
    exact reportsAgree_of_fails hforeign hf settings usage hparse hfails

/-- A look-up that dies of a denied request, as a command that wraps such failures raises it. -/
def deniedLookUp : Failure :=
  (Failure.single (Failure.Node.service "Denied" none)).causing
    (Failure.Node.general "ValueError" "no such entry")

def findCommand : CommandLine.Command (Behaviour Unit) where
  name := "find"
  behaviour _ := throw deniedLookUp

theorem deniedLookUp_reports :
    ∃ after span,
      outcomeOf (invoke { entries := [.command "find" [] findCommand] } none [Interceptor.factory]
        ["find"]) Session.recording = (.ok 20, after) ∧
      after.finished = [span] ∧ span.name = "cmd.find" ∧
      span.status = .error "service.other.-1" := by
  have hforeign : deniedLookUp.IsForeign := rfl
  have hparse : Invocation.ofWords { entries := [.command "find" [] findCommand] }
      Session.recording.environment ["find"] = .ok ⟨["find"], .command findCommand, []⟩ := by cbv
  have hfails : Fails none ⟨["find"], .command findCommand, []⟩ Session.recording deniedLookUp _ :=
    ⟨_, rfl, rfl⟩
  obtain ⟨-, -, hreports⟩ := exitCode_agrees_with_classification hforeign wellKnownDomains
  obtain ⟨code, after, hrun, hagree⟩ :=
    hreports usualSettings (·.usage) (by decide) hparse hfails
  obtain ⟨hcode, hspan⟩ := hagree.unreplaced (pure []) rfl
  obtain ⟨span, hfinished, -, hname, hstatus⟩ := hspan (by cbv) (by cbv)
  have hshape : deniedLookUp.decisiveShape = .service "Denied" none := by cbv
  have hclass : deniedLookUp.classify wellKnownDomains =
      Failure.ofService wellKnownDomains "Denied" none := by rw [Failure.classify_eq, hshape]; rfl
  have hexit : deniedLookUp.exitCode = .serviceError := by
    rw [Failure.exitCode_eq hforeign wellKnownDomains, hclass]
    rfl
  have hdescription : (Failure.ofService wellKnownDomains "Denied" none).code =
      "service.other.-1" := by cbv
  have hlabel : spanName "cmdtrace find" = "cmd.find" := by cbv
  rw [hcode, hexit] at hrun
  rw [hclass, hdescription] at hstatus
  exact ⟨after, span, hrun, hfinished, hname.trans hlabel, hstatus⟩

end Program

end CommandTelemetry
