import CommandTelemetry.Proofs.InvocationHistory
import CommandTelemetry.Proofs.ToolInvocation

/-!
# What telemetry tells about tools

A command that runs a tool sees a good deal: the path of the tool as it was typed, where it is
installed, the words that are handed on, the directory. Two labels of the tool reach its span, one
recorded before the tool starts and one taken from the failure, and they are made independently of
each other. What is shown here is that they agree, and that nothing else of what the command sees is
told: the attributes and the status of the span are a function of the label, the number of words,
whether there is a directory, the name of the run, and how the tool ended.
-/

namespace CommandTelemetry

open Trace Label Attribute

open Script (outcomeOf)

/-! ## Failures of tools -/

namespace Failure

/-- The failure of a tool, ordinary and of no other known shape. -/
structure OfTool (tool : String) (status : Int) (f : Failure) : Prop where
  isOrdinary : f.isOrdinary = true
  classify : ∀ domains, f.classify domains = ofTool tool status
  exitCode : f.exitCode = .toolError

theorem ofTool_of_root {f : Failure} {n : Node} {tool : String} {status : Int}
    (hroot : f.nodes[f.root]? = some n) (hshape : n.shape = .tool tool status)
    (hhome : n.home = Node.knownHome) (hclasses : n.classes = ancestors "Exception")
    (honly : ∀ m ∈ f.nodes, m.shape.category = .unknown ∨ m = n) : f.OfTool tool status := by
  have hnode : f.node = n := by rw [node, hroot, Option.getD_some]
  have hforeign : f.IsForeign := by
    rw [IsForeign, hnode, hhome]
    decide
  have hknown : n.shape.category ≠ .unknown := by
    rw [hshape]
    exact ErrorCategory.noConfusion
  have hclassify : ∀ domains, f.classify domains = ofTool tool status := by
    intro domains
    rw [classify_eq, decisiveShape_of_only hroot hknown honly, hshape, ofShape]
  refine ⟨?_, hclassify, ?_⟩
  · rw [isOrdinary, hnode, Node.isOrdinary, hclasses]
    decide
  · rw [exitCode_eq hforeign wellKnownDomains, hclassify]
    rfl

theorem ofTool_single (tool : String) (status : Int) :
    (single (Node.tool tool status)).OfTool tool status := by
  refine ofTool_of_root (n := Node.tool tool status) rfl rfl rfl rfl fun m hm => .inr ?_
  exact List.mem_singleton.1 hm

/-- A tool that is not installed failed, whatever the failure is that says so. -/
theorem ofTool_notFound (tool : String) :
    (Program.notFoundFailure tool).OfTool tool Program.notInstalled := by
  refine ofTool_of_root (n := _) rfl rfl rfl rfl fun m hm => ?_
  rcases List.mem_cons.1 hm with rfl | hm
  · exact .inl rfl
  · exact .inr (List.mem_singleton.1 hm)

end Failure

namespace Trace.Span

/-- Writes under new keys stand on a span as they were written, if there is room for them and texts
are not cut. -/
theorem storeAll_of_new {limits : Limits} (hlength : limits.textLength = none)
    {attrs writes : Attributes}
    (hroom : ∀ n, limits.attributes = some n → attrs.length + writes.length ≤ n)
    (hkeys : ((attrs ++ writes).map Prod.fst).Nodup)
    (htaken : ∀ w ∈ writes, w.1 ≠ "" ∧ isRefused w.2 = false) :
    storeAll limits attrs writes = attrs ++ writes := by
  induction writes generalizing attrs with
  | nil => rw [List.append_nil, storeAll, List.foldl_nil]
  | cons e rest ih =>
      rw [List.length_cons] at hroom
      obtain ⟨⟨hne, hv⟩, htaken⟩ := List.forall_mem_cons.1 htaken
      have hfresh : e.1 ∉ attrs.map Prod.fst := notMem_keys_of_nodup hkeys
      have hstore : store limits attrs e.1 e.2 = attrs ++ [e] := by
        have hzero : limits.attributes ≠ some 0 := fun h => by
          have := hroom 0 h
          omega
        have hfull : limits.attributes ≠ some attrs.length := fun h => by
          have := hroom _ h
          omega
        have hnew : attrs.any (·.1 = e.1) = false := by
          refine List.any_eq_false.2 fun a ha h => hfresh ?_
          exact of_decide_eq_true h ▸ List.mem_map_of_mem ha
        have hkept : kept limits e.2 = e.2 := by rw [kept, hlength]
        rw [store_eq, decide_eq_false hne, hv, Bool.or_false, if_neg Bool.false_ne_true,
          if_neg hzero, hnew, if_neg Bool.false_ne_true, if_neg hfull, hkept]
      have hrest : storeAll limits (attrs ++ [e]) rest = attrs ++ [e] ++ rest := by
        refine ih (fun n hn => ?_) (by rwa [← List.append_cons]) htaken
        have := hroom n hn
        rw [List.length_append, List.length_singleton]
        omega
      rw [storeAll, List.foldl_cons, ← storeAll, hstore, hrest, ← List.append_cons]

end Trace.Span

/-- The number that a tool ends with; one that did not start has a number of its own. -/
def ToolRun.status : ToolRun → Int
  | .exited status => status
  | .notFound | .notPermitted => Program.notInstalled

namespace Program

open CommandLine

variable {ε : Type}

/-! ## The command -/

/-- How the command ends when its tool ends so. -/
def EndsAs (tool : String) : ToolRun → Except Failure Answer → Prop
  | .exited status, o =>
    if status = 0 then
      ∃ duration : Float,
        o = .ok (.result (ActionResult.success none [("duration_ms", .float duration)]))
    else o = .error (Failure.single (Failure.Node.tool tool status))
  | .notFound, o => o = .error (notFoundFailure tool)
  | .notPermitted, o => o = .error notPermittedFailure

theorem EndsAs.answer {tool : String} {run : ToolRun} {a : Answer} (h : EndsAs tool run (.ok a)) :
    run = .exited 0 ∧ ∃ duration : Float,
      a = .result (ActionResult.success none [("duration_ms", .float duration)]) := by
  cases run with
  | notFound | notPermitted => cases h
  | exited status =>
      rw [EndsAs] at h
      split at h
      · next hzero =>
          obtain ⟨duration, hanswer⟩ := h
          exact ⟨by rw [hzero], duration, Except.ok.inj hanswer⟩
      · cases h

theorem EndsAs.failure {tool : String} {run : ToolRun} {f : Failure}
    (h : EndsAs tool run (.error f)) (hrun : run ≠ .notPermitted) :
    run.status ≠ 0 ∧ f.OfTool tool run.status := by
  cases run with
  | notPermitted => exact absurd rfl hrun
  | notFound =>
      cases h
      exact ⟨by decide, Failure.ofTool_notFound tool⟩
  | exited status =>
      rw [EndsAs] at h
      split at h
      · obtain ⟨duration, hanswer⟩ := h
        cases hanswer
      · next hnonzero =>
          cases h
          exact ⟨hnonzero, Failure.ofTool_single tool status⟩

/-- The fact that is recorded about the use of a tool. -/
def toolFact (tool : String) : Value × Value :=
  (.text AttributeName.toolInvoked.key, .text (Failure.toolLabel tool))

/-- The tool was noted since `s`, and nothing else that telemetry or the tool depends on changed. -/
structure Noted (tool : String) (s t : Session ε) : Prop where
  usage : t.usage = s.usage.set (toolFact tool).1 (toolFact tool).2
  provider : t.provider = s.provider
  locate : t.host.locate = s.host.locate
  run : t.host.run = s.host.run

theorem outcomeOf_noteTool (tool : String) (s : Session ε) :
    ∃ t, outcomeOf (noteTool tool) s = (.ok (), t) ∧ Noted tool s t :=
  ⟨_, rfl, rfl, rfl, rfl, rfl⟩

section Steps

variable {tool : String} {s t : Session ε}

theorem Noted.log (h : Noted tool s t) (records : List Log.Record) :
    Noted tool s (t.log records) := ⟨h.usage, h.provider, h.locate, h.run⟩

theorem Noted.readClock (h : Noted tool s t) :
    ∃ reading t', outcomeOf Program.readClock t = (.ok reading, t') ∧ Noted tool s t' := by
  unfold Program.readClock outcomeOf
  dsimp only
  cases t.host.clock with
  | nil => exact ⟨_, _, rfl, h⟩
  | cons reading rest => exact ⟨_, _, rfl, h.usage, h.provider, h.locate, h.run⟩

theorem Noted.start (h : Noted tool s t) (path : String) (words : List String)
    (directory : Option String) :
    ∃ t', outcomeOf (Program.start (path :: words) directory) t = (.ok (s.host.run path), t') ∧
      Noted tool s t' := by
  have hstart : outcomeOf (Program.start (path :: words) directory) t =
      (.ok (t.host.run path), { t with starts := t.starts ++ [⟨path :: words, directory⟩] }) := rfl
  rw [h.run] at hstart
  exact ⟨_, hstart, h.usage, h.provider, h.locate, h.run⟩

end Steps

theorem runTool_ends (tool : String) (words : List String) (directory : Option String)
    (s : Session ε) :
    EndsAs tool (s.host.run (executable s.host tool))
        (outcomeOf (runTool tool words directory) s).1 ∧
      Noted tool s (outcomeOf (runTool tool words directory) s).2 := by
  obtain ⟨t₁, hnote, h₁⟩ := outcomeOf_noteTool tool s
  have h₂ := h₁.log
    [⟨.debug, execLogger, s!"Running external tool with {words.length} argument(s)."⟩]
  have hpath : executable t₁.host tool = executable s.host tool := by
    rw [executable, h₁.locate, executable]
  obtain ⟨started, t₃, hstarted, h₃⟩ := h₂.readClock
  obtain ⟨t₄, hstart, h₄⟩ := h₃.start (executable s.host tool) words (directory.map plainPath)
  obtain ⟨ended, t₅, hended, h₅⟩ := h₄.readClock
  unfold runTool
  rw [outcomeOf_bind_ok hnote, outcomeOf_bind_ok (outcomeOf_take ..),
    outcomeOf_bind_ok (outcomeOf_get _)]
  simp only []
  rw [outcomeOf_bind_ok hstarted, Session.log, hpath, outcomeOf_bind_ok hstart]
  cases s.host.run (executable s.host tool) with
  | notFound => exact ⟨rfl, h₄⟩
  | notPermitted => exact ⟨rfl, h₄⟩
  | exited status =>
      simp only []
      rw [outcomeOf_bind_ok hended, EndsAs]
      split
      · exact ⟨⟨_, rfl⟩, h₅⟩
      · exact ⟨rfl, h₅⟩

/-! ## The invocation -/

section Invocation

variable {tool : String} {rest : List String} {directory : Option String}

theorem behaviour_toolBinding (context : Option RunContext) :
    (execCommand (ε := ε)).behaviour ⟨toolBinding tool rest directory, context⟩ =
      runTool tool rest directory := by
  have hwords : (toolBinding tool rest directory).values wordsParameter.label = rest := by
    have hvalues : (toolBinding tool rest directory).values wordsParameter.label =
        (rest.map Token.byPosition).map Token.value ++ [] := rfl
    rw [hvalues, List.append_nil, List.map_map]
    exact List.map_id rest
  have hdirectory : ((toolBinding tool rest directory).values directoryParameter.label).head? =
      directory := by
    cases directory <;> rfl
  have htool : ((toolBinding tool rest directory).values toolParameter.label).head?.getD "" =
      tool := rfl
  simp only [execCommand, hwords, hdirectory, htool]

theorem host_sessionInside (context : Option RunContext) (i : Invocation (Behaviour ε))
    (s : Session ε) : (sessionInside context i s).host = s.host := by
  have hnamed : (s.named (context.map (·.runId))).host = s.host := by
    cases context <;> rfl
  have hstart : ∀ t : Session ε, (Interceptor.start i.options none t).2.host = t.host := by
    intro t
    unfold Interceptor.start Session.startSpan
    cases t.provider.filter (!·.isDisabled) with
    | none => rfl
    | some p =>
        simp only []
  exact (hstart _).trans hnamed

variable (tool rest directory) in
theorem commandRun_toolInvocation (context : Option RunContext) (s : Session ε) :
    EndsAs tool (s.host.run (executable s.host tool))
        (commandRun context (toolInvocation tool rest directory) s).1 ∧
      Noted tool (sessionInside context (toolInvocation tool rest directory) s)
        (commandRun context (toolInvocation tool rest directory) s).2 := by
  have hcall : callTarget (toolInvocation (ε := ε) tool rest directory).target
      ⟨(toolInvocation (ε := ε) tool rest directory).binding, context⟩ =
        runTool tool rest directory := behaviour_toolBinding context
  obtain ⟨hends, hnoted⟩ := runTool_ends tool rest directory
    (sessionInside context (toolInvocation tool rest directory) s)
  rw [host_sessionInside] at hends
  unfold commandRun action
  rw [hcall, outcomeOf_bind]
  generalize outcomeOf (runTool tool rest directory)
    (sessionInside context (toolInvocation tool rest directory) s) = r at hends hnoted ⊢
  obtain ⟨o, after⟩ := r
  cases o with
  | error f => exact ⟨hends, hnoted⟩
  | ok a =>
      obtain ⟨-, duration, rfl⟩ := hends.answer
      exact ⟨hends, hnoted⟩

theorem options_toolInvocation :
    (toolInvocation (ε := ε) tool rest directory).options =
      { path := "cmdtrace exec"
        flags := some [⟨"cwd", directory.isSome⟩]
        words := (tool :: rest).map .text } := by
  have hwords : (toolBinding tool rest directory).words = tool :: rest := by
    have hflat : (toolBinding tool rest directory).words =
        tool :: ((rest.map Token.byPosition).filterMap Token.word? ++
          ((directoryTokens directory).filterMap Token.word? ++ [])) := rfl
    have hrest : (rest.map Token.byPosition).filterMap Token.word? = rest := by
      rw [List.filterMap_map]
      exact List.filterMap_some
    have hdirectory : (directoryTokens directory).filterMap Token.word? = [] := by
      cases directory <;> rfl
    rw [hflat, hrest, hdirectory, List.append_nil, List.append_nil]
  have hflags : (toolBinding tool rest directory).flags = [⟨"cwd", directory.isSome⟩] := by
    cases directory with
    | none => cbv
    | some d => cbv
  have hpath : " ".intercalate (programName :: ["exec"]) = "cmdtrace exec" := by decide
  rw [Invocation.options, toolInvocation]
  simp only [hwords, hflags, hpath]

end Invocation

/-! ## The span -/

/-- What is told about a tool on the span of an invocation. -/
def toldAttributes (runId : Option String) (label : String) (positions : Nat)
    (hasDirectory : Bool) (status : Int) : Attributes :=
  runAttributes runId ++
    [(AttributeName.cmdFlags.key, .list (if hasDirectory then [.text "cwd"] else [])),
     (AttributeName.cmdArgsCount.key, .int positions)] ++
    (if status = 0 then []
      else
        [(errorKey AttributeName.toolExitCode.key, .int status),
         (errorKey AttributeName.toolName.key, .text label)]) ++
    [(AttributeName.toolInvoked.key, .text label)]

/-- The status of such a span. -/
def toldStatus (label : String) (status : Int) : Status :=
  if status = 0 then .unset else .error s!"tool.{label}.failed"

/-- The keys that may be told about a tool. -/
def toldKeys : List String :=
  [AttributeName.runId.key] ++ [AttributeName.cmdFlags.key, AttributeName.cmdArgsCount.key] ++
    [errorKey AttributeName.toolExitCode.key, errorKey AttributeName.toolName.key] ++
    [AttributeName.toolInvoked.key]

section Span

variable (runId : Option String) (label : String) (positions : Nat) (hasDirectory : Bool)
  (status : Int)

theorem keys_toldAttributes :
    ((toldAttributes runId label positions hasDirectory status).map Prod.fst).Sublist toldKeys := by
  have hrun : ((runAttributes runId).map Prod.fst).Sublist [AttributeName.runId.key] := by
    unfold runAttributes
    split
    · exact List.nil_sublist _
    · exact List.nil_sublist _
    · exact List.Sublist.refl _
  have herror : ((if status = 0 then []
      else
        [(errorKey AttributeName.toolExitCode.key, Value.int status),
         (errorKey AttributeName.toolName.key, Value.text label)]).map Prod.fst).Sublist
      [errorKey AttributeName.toolExitCode.key, errorKey AttributeName.toolName.key] := by
    split
    · exact List.nil_sublist _
    · exact List.Sublist.refl _
  rw [toldAttributes, List.map_append, List.map_append, List.map_append]
  exact ((hrun.append (List.Sublist.refl _)).append herror).append (List.Sublist.refl _)

/-- No error is told of a tool that ended well. -/
theorem errorKey_notMem_toldAttributes (name : String) :
    errorKey name ∉ (toldAttributes runId label positions hasDirectory 0).map Prod.fst := by
  intro hmem
  rw [toldAttributes, if_pos rfl, List.append_nil, List.map_append, List.map_append] at hmem
  have hothers : ∀ k ∈ [AttributeName.runId.key, AttributeName.cmdFlags.key,
      AttributeName.cmdArgsCount.key, AttributeName.toolInvoked.key],
      k.toList.head? ≠ some 'e' := by
    decide
  refine Visit.errorKey_ne (hothers (errorKey name) ?_) name rfl
  simp only [List.mem_append, List.map_cons, List.map_nil] at hmem
  rcases hmem with (hmem | hmem) | hmem
  · rw [Visit.mem_keys_runAttributes hmem]
    exact List.mem_cons_self
  · exact List.mem_cons_of_mem _ (List.mem_append_left [_] hmem)
  · exact List.mem_append_right [_, _, _] hmem

/-- All of it are scalars and the name of a flag. -/
theorem isRefused_toldAttributes {a : String × Value}
    (h : a ∈ toldAttributes runId label positions hasDirectory status) :
    isRefused a.2 = false := by
  unfold toldAttributes at h
  simp only [List.mem_append] at h
  rcases h with ((h | h) | h) | h
  · exact Visit.isRefused_runAttributes h
  · rcases List.mem_cons.1 h with rfl | h
    · cases hasDirectory <;> rfl
    · rw [List.mem_singleton.1 h]
      rfl
  · split at h
    · cases h
    · rcases List.mem_cons.1 h with rfl | h
      · rfl
      · rw [List.mem_singleton.1 h]
        rfl
  · rw [List.mem_singleton.1 h]
    rfl

/-- On a new span with room for six attributes all of them are kept as they are. -/
theorem storeAll_toldAttributes {limits : Limits} (hlength : limits.textLength = none)
    (hroom : ∀ n, limits.attributes = some n → 6 ≤ n) :
    Span.storeAll limits [] (toldAttributes runId label positions hasDirectory status) =
      toldAttributes runId label positions hasDirectory status := by
  have hkeys := keys_toldAttributes runId label positions hasDirectory status
  have hnodup : toldKeys.Nodup := by decide
  have hcount : (toldAttributes runId label positions hasDirectory status).length ≤ 6 := by
    rw [← List.length_map Prod.fst]
    exact hkeys.length_le
  refine Span.storeAll_of_new hlength (fun n hn => ?_) (hnodup.sublist hkeys) fun a ha =>
    ⟨fun h => ?_, isRefused_toldAttributes runId label positions hasDirectory status ha⟩
  · have := hroom n hn
    rw [List.length_nil]
    omega
  · have hmem := hkeys.subset (List.mem_map_of_mem (f := Prod.fst) ha)
    rw [h] at hmem
    exact absurd hmem (by decide)

end Span

/-! ## Requests -/

/-- Nothing was invoked in the session so far. Its spans have room for what is told about a tool,
and their texts are not cut. -/
structure Fresh (limits : Limits) (s : Session ε) : Prop where
  idle : Idle limits s
  usage : s.usage = []
  finished : s.finished = []
  textLength : limits.textLength = none
  room : ∀ n, limits.attributes = some n → 6 ≤ n

/-- A command line that runs a tool, in a fresh session. -/
structure ToolRequest (ε : Type) where
  session : Session ε
  limits : Limits
  fresh : Fresh limits session
  context : Option RunContext
  words : List String
  invocation : Invocation (Behaviour ε)
  parsed : Invocation.ofWords grammar session.environment words = .ok invocation
  runsTool : invocation.target = .command execCommand

namespace ToolRequest

/-- The tool as it is named on the command line. -/
def tool (r : ToolRequest ε) : String :=
  (r.invocation.binding.values toolParameter.label).head?.getD ""

def label (r : ToolRequest ε) : String := Failure.toolLabel r.tool

/-- How many values are given by position. -/
def positions (r : ToolRequest ε) : Nat := r.invocation.binding.words.length

def hasDirectory (r : ToolRequest ε) : Bool :=
  !(r.invocation.binding.values directoryParameter.label).isEmpty

/-- How the tool ends when what is installed for it is started. -/
def toolRun (r : ToolRequest ε) : ToolRun :=
  r.session.host.run (executable r.session.host r.tool)

/-- How the invocation ends, and the session after it. -/
def result (r : ToolRequest ε) : Except Failure Int × Session ε :=
  outcomeOf (invoke grammar r.context usualChain r.words) r.session

end ToolRequest

/-- How an invocation ends whose tool ends with this number. -/
def toldExit (status : Int) : ExitCode := if status = 0 then .success else .toolError

section Requests

variable {limits : Limits} {context : Option RunContext} {s : Session ε} {tool : String}
  {rest words : List String} {directory : Option String}

theorem usage_commandRun (h : Fresh limits s) :
    (commandRun context (toolInvocation tool rest directory) s).2.usage = [toolFact tool] := by
  obtain ⟨-, hnoted⟩ := commandRun_toolInvocation tool rest directory context s
  rw [hnoted.usage, (h.idle.inside context _).usage, h.usage]
  rfl

theorem used_toolFact (v : Visit) (h : v.usage = [toolFact tool]) :
    (v.used usualSettings).value =
      [(AttributeName.toolInvoked.key, .text (Failure.toolLabel tool))] := by
  let told : Attributes := [(AttributeName.toolInvoked.key, .text (Failure.toolLabel tool))]
  have hopen : isSensitive usualRedactKeys AttributeName.toolInvoked.key = false := by decide
  have hnormal : normalizeAll usualSettings (told.map fun a => (.text a.1, a.2)) = .ok told :=
    normalizeAll_of_isPlain rfl (List.nodup_singleton _)
      (List.forall_mem_singleton.2 rfl) (List.forall_mem_singleton.2 hopen)
  have husage : v.usage = told.map fun a => (.text a.1, a.2) := h
  rw [Visit.used, husage, normalize_of_unlimited rfl, hnormal]
  rfl

theorem writes_toolVisit (runId : Option String) (domains : List Domain) {v : Visit}
    (hoptions : v.options = (toolInvocation (ε := ε) tool rest directory).options)
    {run : ToolRun} (hends : EndsAs tool run v.ending) (hrun : run ≠ .notPermitted)
    (husage : v.usage = [toolFact tool]) :
    v.writes runId domains usualSettings [] =
        toldAttributes runId (Failure.toolLabel tool) (rest.length + 1) directory.isSome
          run.status ∧
      Interceptor.statusOf domains v.ending = toldStatus (Failure.toolLabel tool) run.status := by
  have hdescribed : Interceptor.described v.options =
      [(AttributeName.cmdFlags.key,
          .list (if directory.isSome then [.text "cwd"] else [])),
       (AttributeName.cmdArgsCount.key, .int (rest.length + 1))] := by
    rw [hoptions, options_toolInvocation]
    have hcount : ((tool :: rest).map Value.text).length = rest.length + 1 := by
      rw [List.length_map, List.length_cons]
    unfold Interceptor.described CommandOptions.wordCount
    rw [hcount]
    cases directory <;> rfl
  rw [Visit.writes, Visit.ownWrites, hdescribed, used_toolFact v husage, Interceptor.writesOf,
    Interceptor.told_usual]
  cases hending : v.ending with
  | ok a =>
      rw [hending] at hends
      obtain ⟨rfl, -⟩ := hends.answer
      exact ⟨rfl, rfl⟩
  | error f =>
      rw [hending] at hends
      obtain ⟨hnonzero, hfailure⟩ := hends.failure hrun
      simp only []
      rw [Interceptor.statusOf, if_pos hfailure.isOrdinary, if_pos hfailure.isOrdinary,
        hfailure.classify, toldAttributes, toldStatus, if_neg hnonzero, if_neg hnonzero]
      exact ⟨rfl, rfl⟩

/-- A success that has nothing to say but how long it took is rendered without a fault. -/
theorem outcomeOf_afterwards_success (traceText : String) (duration : Float) (s : Session ε) :
    (outcomeOf (afterwards (Course.ended traceText
      (.ok (.result (ActionResult.success none [("duration_ms", .float duration)]))))) s).1 =
        .ok 0 := by
  rfl

/-- The exit code follows from how the tool ended. -/
theorem Fresh.exitCode (h : Fresh limits s)
    (hparse : Invocation.ofWords (grammar (ε := ε)) s.environment words =
      .ok (toolInvocation tool rest directory))
    (hrun : s.host.run (executable s.host tool) ≠ .notPermitted) :
    (outcomeOf (invoke grammar context usualChain words) s).1 =
      .ok (toldExit (s.host.run (executable s.host tool)).status).number := by
  have hkeeps := KeepsToItself.of_discreet
    (discreet_action hasDiscreetCommands_grammar hparse context none) s
  obtain ⟨hends, -⟩ := commandRun_toolInvocation tool rest directory context s
  rw [outcomeOf_invoke_of_run hparse (h.idle.outcomeOf_chain hkeeps)]
  cases hcommand : (commandRun context (toolInvocation tool rest directory) s).1 with
  | ok a =>
      rw [hcommand] at hends
      obtain ⟨hzero, duration, rfl⟩ := hends.answer
      rw [hzero]
      exact outcomeOf_afterwards_success _ _ _
  | error f =>
      rw [hcommand] at hends
      obtain ⟨hnonzero, hfailure⟩ := hends.failure hrun
      rw [toldExit, if_neg hnonzero, ← hfailure.exitCode, Course.ended, afterwards,
        if_pos hfailure.isOrdinary]
      obtain ⟨after, hreport, -⟩ := outcomeOf_report f _
      rw [hreport]

theorem Fresh.span (h : Fresh limits s)
    (hparse : Invocation.ofWords (grammar (ε := ε)) s.environment words =
      .ok (toolInvocation tool rest directory))
    (hrun : s.host.run (executable s.host tool) ≠ .notPermitted) :
    ∃ span, (outcomeOf (invoke grammar context usualChain words) s).2.finished = [span] ∧
      span.name = "cmd.exec" ∧
      span.attributes = toldAttributes (context.map (·.runId)) (Failure.toolLabel tool)
        (rest.length + 1) directory.isSome (s.host.run (executable s.host tool)).status ∧
      span.status = toldStatus (Failure.toolLabel tool)
        (s.host.run (executable s.host tool)).status := by
  have hkeeps := KeepsToItself.of_discreet
    (discreet_action hasDiscreetCommands_grammar hparse context none) s
  obtain ⟨p, hp, hrecords, -, -⟩ := h.idle.provider
  obtain ⟨hends, hnoted⟩ := commandRun_toolInvocation tool rest directory context s
  obtain ⟨hwrites, hstatus⟩ := writes_toolVisit (context.map (·.runId)) wellKnownDomains
    (v := visitOf context (toolInvocation tool rest directory) s) rfl hends hrun
    (usage_commandRun h)
  refine ⟨lastSpan limits usualSettings context (toolInvocation tool rest directory) s, ?_, ?_, ?_,
    hstatus⟩
  · have hprovider : (commandRun context (toolInvocation tool rest directory) s).2.provider =
        some p := by
      rw [hnoted.provider, (h.idle.inside context _).provider, hp]
    have hempty : p.finished = [] := by
      have := h.finished
      rwa [Session.finished, hp] at this
    rw [Session.finished, (h.idle.reported usualSettings hkeeps hparse).provider, settled,
      hprovider, Option.map_some, Provider.finish_of_records hrecords rfl, Provider.keeping, hempty]
    rfl
  · have hname : spanName "cmdtrace exec" = "cmd.exec" := by cbv
    have hpath :
        (lastSpan limits usualSettings context (toolInvocation tool rest directory) s).name =
        spanName (toolInvocation (ε := ε) tool rest directory).options.path := rfl
    rw [hpath, options_toolInvocation, hname]
  · exact (congrArg (Span.storeAll limits []) hwrites).trans
      (storeAll_toldAttributes _ _ _ _ _ h.textLength h.room)

end Requests

/-! ## What is told -/

theorem ToolRequest.form (r : ToolRequest ε) :
    ∃ rest directory, r.invocation = toolInvocation r.tool rest directory ∧
      r.positions = rest.length + 1 ∧ r.hasDirectory = directory.isSome := by
  obtain ⟨tool, rest, directory, hform⟩ := toolInvocation_of_ofWords r.parsed r.runsTool
  have htool : r.tool = tool := by
    rw [ToolRequest.tool, hform]
    rfl
  have hwords : (toolInvocation (ε := ε) tool rest directory).options.words =
      (tool :: rest).map .text := by rw [options_toolInvocation]
  refine ⟨rest, directory, by rw [hform, htool], ?_, ?_⟩
  · rw [ToolRequest.positions, hform, ← List.length_map Value.text, ← List.length_cons,
      ← List.length_map Value.text]
    exact congrArg List.length hwords
  · rw [ToolRequest.hasDirectory, hform]
    cases directory <;> rfl

/-- What a request leaves behind. -/
theorem ToolRequest.told (r : ToolRequest ε) (hrun : r.toolRun ≠ .notPermitted) :
    r.result.1 = .ok (toldExit r.toolRun.status).number ∧
      ∃ span, r.result.2.finished = [span] ∧ span.name = "cmd.exec" ∧
        span.attributes = toldAttributes (r.context.map (·.runId)) r.label r.positions
          r.hasDirectory r.toolRun.status ∧
        span.status = toldStatus r.label r.toolRun.status := by
  obtain ⟨rest, directory, hform, hpositions, hdirectory⟩ := r.form
  have hparsed := r.parsed
  rw [hform] at hparsed
  rw [hpositions, hdirectory]
  exact ⟨r.fresh.exitCode hparsed hrun, r.fresh.span hparsed hrun⟩

theorem status_eq_zero_iff {run : ToolRun} : run.status = 0 ↔ run = .exited 0 := by
  cases run with
  | exited status =>
      constructor
      · rintro rfl
        rfl
      · rintro ⟨⟩
        rfl
  | notFound | notPermitted => exact ⟨fun h => absurd h (by decide), fun h => by cases h⟩

/-- A tool is told by its label and by the number that it ended with. -/
theorem exec_tells_label_only (r : ToolRequest ε) (hrun : r.toolRun ≠ .notPermitted) :
    ∃ span, r.result.2.finished = [span] ∧ span.name = "cmd.exec" ∧
      span.attributes.lookup AttributeName.toolInvoked.key = some (.text r.label) ∧
      (r.toolRun = .exited 0 →
        r.result.1 = .ok ExitCode.success.number ∧ span.status = .unset ∧
          ∀ name, errorKey name ∉ span.attributes.map Prod.fst) ∧
      (r.toolRun ≠ .exited 0 →
        r.result.1 = .ok ExitCode.toolError.number ∧
          span.status = .error s!"tool.{r.label}.failed" ∧
          span.attributes.lookup (errorKey AttributeName.toolName.key) = some (.text r.label) ∧
          span.attributes.lookup (errorKey AttributeName.toolExitCode.key) =
            some (.int r.toolRun.status)) ∧
      ∀ {ε' : Type} (r' : ToolRequest ε'), r'.label = r.label → r'.positions = r.positions →
        r'.hasDirectory = r.hasDirectory → r'.context = r.context → r'.toolRun = r.toolRun →
        ∃ span', r'.result.2.finished = [span'] ∧ span'.attributes = span.attributes ∧
          span'.status = span.status := by
  obtain ⟨hexit, span, hfinished, hname, hattributes, hstatus⟩ := r.told hrun
  have hnodup : (span.attributes.map Prod.fst).Nodup := by
    have hkeys : toldKeys.Nodup := by decide
    rw [hattributes]
    exact hkeys.sublist (keys_toldAttributes ..)
  refine ⟨span, hfinished, hname, lookup_of_mem hnodup ?_, fun hzero => ?_, fun hnonzero => ?_, ?_⟩
  · rw [hattributes, toldAttributes]
    exact List.mem_append_right _ List.mem_cons_self
  · have hstatuszero := status_eq_zero_iff.2 hzero
    rw [hstatuszero] at hexit hstatus hattributes
    refine ⟨hexit, hstatus, fun name => ?_⟩
    rw [hattributes]
    exact errorKey_notMem_toldAttributes _ _ _ _ name
  · have hne : r.toolRun.status ≠ 0 := fun h => hnonzero (status_eq_zero_iff.1 h)
    rw [toldExit, if_neg hne] at hexit
    rw [toldStatus, if_neg hne] at hstatus
    have hmem : ∀ a ∈ [(errorKey AttributeName.toolExitCode.key, Value.int r.toolRun.status),
        (errorKey AttributeName.toolName.key, Value.text r.label)], a ∈ span.attributes := by
      intro a ha
      rw [hattributes, toldAttributes, if_neg hne]
      exact List.mem_append_left _ (List.mem_append_right _ ha)
    exact ⟨hexit, hstatus, lookup_of_mem hnodup (hmem _ (.tail _ List.mem_cons_self)),
      lookup_of_mem hnodup (hmem _ List.mem_cons_self)⟩
  · intro ε' r' hlabel hpositions hdirectory hcontext hsame
    obtain ⟨-, span', hfinished', -, hattributes', hstatus'⟩ := r'.told (by rwa [hsame])
    rw [hlabel, hpositions, hdirectory, hcontext, hsame] at hattributes'
    rw [hlabel, hsame] at hstatus'
    exact ⟨span', hfinished', hattributes'.trans hattributes.symm, hstatus'.trans hstatus.symm⟩

/-- A host where every tool ends with this number, wherever it is installed. -/
def failingHost (home : String) (status : Int) : Host where
  locate tool := some (home ++ tool)
  run _ := .exited status

/-- A request for a tool in a directory, on such a host. -/
def failingRequest (home tool : String) (rest : List String) (directory : String) :
    ToolRequest Unit where
  session := { Session.recording with host := failingHost home 5 }
  limits := ⟨some Limits.usualCount, none⟩
  fresh :=
    { idle :=
        ⟨⟨_, rfl, ⟨rfl, rfl, rfl⟩, Nat.le_refl _, rfl⟩, rfl, rfl, rfl, fun e he => by cases he⟩
      usage := rfl
      finished := rfl
      textLength := rfl
      room := fun n hn => by
        cases hn
        decide }
  context := some { runId := "nightly" }
  words := toolLine tool rest directory
  invocation := toolInvocation tool rest (some directory)
  parsed := ofWords_toolLine _ tool rest directory
  runsTool := rfl

def applyRequest : ToolRequest Unit :=
  failingRequest "/usr/bin/" "./Terraform.exe" ["apply", "token=a"] "/srv/a"

def planRequest : ToolRequest Unit :=
  failingRequest "/opt/" "C:\\tools\\TERRAFORM" ["plan", "--help"] "b"

theorem failingRequests_look_alike :
    ∃ span, applyRequest.result.2.finished = [span] ∧
      span.attributes.lookup AttributeName.toolInvoked.key = some (.text "terraform") ∧
      span.attributes.lookup (errorKey AttributeName.toolExitCode.key) = some (.int 5) ∧
      span.status = .error "tool.terraform.failed" ∧
      ∃ span', planRequest.result.2.finished = [span'] ∧ span'.attributes = span.attributes ∧
        span'.status = span.status := by
  have hlabel : applyRequest.label = "terraform" := by cbv
  have hlabel' : planRequest.label = "terraform" := by cbv
  have hrun : applyRequest.toolRun = .exited 5 := rfl
  obtain ⟨span, hfinished, -, hinvoked, -, hfailed, hothers⟩ :=
    exec_tells_label_only applyRequest (by rw [hrun]; exact ToolRun.noConfusion)
  obtain ⟨-, hstatus, -, hexit⟩ := hfailed (by rw [hrun]; decide)
  rw [hlabel] at hinvoked hstatus
  refine ⟨span, hfinished, hinvoked, hexit, hstatus.trans (congrArg _ (by decide)), ?_⟩
  exact hothers planRequest (hlabel'.trans hlabel.symm) rfl rfl rfl rfl

end Program

end CommandTelemetry
