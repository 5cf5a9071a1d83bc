import CommandTelemetry.Proofs.DiscreetCommands
import CommandTelemetry.Proofs.FailedInvocation
import CommandTelemetry.Proofs.InvocationSpan

/-!
# Histories of invocations

One process may invoke any number of command lines, one after the other, and what they share is the
session. An invocation names the run, makes its span the current one and notes the last trace; each
of these is given back in a way of its own, or not at all. A leak would show in a later invocation
only, so what has to be shown is a property of histories.

The invariant is `Idle`: between invocations there is no run, no active span and no baggage. What is
asked of a command is `KeepsToItself`, and that only of the commands that are run, in the sessions
that they are run in. Then every invocation that starts idle leaves its session idle, whether its
command line is refused, its command answers, or its command fails in any way, and the account of a
single invocation, `Accounted`, holds of each invocation of a history. Discreet commands keep to
themselves wherever they are run.
-/

namespace CommandTelemetry

open Trace Label Attribute Text

open Script (outcomeOf)

/-! ## The name of the run on a span -/

namespace Visit

variable {limits : Limits} {runId : Option String} {domains : List Domain} {settings : Settings}
  {v : Visit}

theorem lookup_runAttributes (runId : Option String) :
    (runAttributes runId).reverse.lookup AttributeName.runId.key =
      (runId.filter (· ≠ "")).map .text := by
  unfold runAttributes
  split
  · rfl
  · rfl
  · next id hne =>
      rw [Option.filter_some, if_pos (by simpa using hne)]
      exact Span.lookup_single_self _ _

theorem isRefused_runAttributes {e : String × Value} (h : e ∈ runAttributes runId) :
    isRefused e.2 = false := by
  unfold runAttributes at h
  split at h
  · cases h
  · cases h
  · rw [List.mem_singleton.1 h]
    rfl

/-- Under its key stands the name of the run, as far as the limit on texts allows, and nothing if
the run has no name. -/
theorem lookup_runId (h : v.Fits limits runId domains settings [])
    (hkeys : ∀ e ∈ v.usage, e.1.display ≠ .ok AttributeName.runId.key) (scopeVersion : String)
    (context : SpanContext) (parent : Option Nat) :
    (v.span limits runId domains settings scopeVersion context parent []).attributes.lookup
        AttributeName.runId.key =
      (runId.filter (· ≠ "")).map fun id => Span.kept limits (.text id) := by
  -- What is written behind the name of the run stands under other keys.
  have htold : ∀ e ∈ Interceptor.described v.options ++
      Interceptor.writesOf domains settings v.ending ++ (v.used settings).value,
      AttributeName.runId.key ≠ e.1 := by
    intro e he heq
    have hmem : AttributeName.runId.key ∈ (Interceptor.described v.options ++
        Interceptor.writesOf domains settings v.ending ++ (v.used settings).value).map Prod.fst :=
      heq ▸ List.mem_map_of_mem he
    rcases mem_keys_told h.values hmem with (hk | hk) | ⟨name, hk⟩ | ⟨e, he, hk⟩
    · exact absurd hk (by decide)
    · exact absurd hk (by decide)
    · exact errorKey_ne (by decide) name hk.symm
    · exact hkeys e he hk
  have hnone : (Interceptor.described v.options ++ Interceptor.writesOf domains settings v.ending ++
      (v.used settings).value).reverse.lookup AttributeName.runId.key = none :=
    List.lookup_eq_none_iff.2 fun e he => bne_iff_ne.2 (htold e (List.mem_reverse.1 he))
  have hwrites : v.writes runId domains settings [] = runAttributes runId ++
      (Interceptor.described v.options ++ Interceptor.writesOf domains settings v.ending ++
        (v.used settings).value) := by
    rw [writes, ownWrites, List.append_assoc, List.append_assoc,
      ← List.append_assoc _ _ (v.used settings).value]
    rfl
  have htaken : ∀ e ∈ v.writes runId domains settings [],
      e.1 = AttributeName.runId.key → isRefused e.2 = false := by
    rw [hwrites]
    intro e he hkey
    rcases List.mem_append.1 he with he | he
    · exact isRefused_runAttributes he
    · exact absurd hkey.symm (htold e he)
  rw [span, Span.lookup_storeAll_nil (by decide) htaken h.room, hwrites, List.reverse_append,
    List.lookup_append, hnone, Option.none_or, lookup_runAttributes, Option.map_map]
  rfl

end Visit

theorem Trace.SpanContext.traceText_ne_empty (c : SpanContext) : c.traceText ≠ "" := by
  obtain ⟨ds, hlength, -, hdigits⟩ := showsHex_hex 32 c.traceId
  intro h
  have hcount := congrArg List.length hdigits
  rw [List.length_map, List.length_map, hlength, List.length_reverse, ← traceText, h] at hcount
  cases hcount

namespace Program

open CommandLine

variable {ε : Type}

/-! ## After the chain -/

/-- The lines that name the trace of an invocation: one if its action fails and the failure is an
ordinary one. -/
def traceLines (traceText : String) : Except Failure Answer → List String
  | .ok _ => []
  | .error f => if f.isOrdinary then [s!"TraceID: {traceText}"] else []

/-- Nothing differs that matters between invocations, and these lines were printed to the error
output. -/
structure Reported (s after : Session ε) (lines : List String) : Prop where
  provider : after.provider = s.provider
  runId : after.runId = s.runId
  current : after.current = s.current
  usage : after.usage = s.usage
  diagnostics : after.diagnostics = s.diagnostics ++ lines

theorem reported_foldl_print (lines : List String) (s : Session ε) :
    Reported s (lines.foldl Session.print s) [] := by
  induction lines generalizing s with
  | nil => exact ⟨rfl, rfl, rfl, rfl, (List.append_nil _).symm⟩
  | cons line rest ih =>
      have hrest := ih (s.print line)
      exact ⟨hrest.provider, hrest.runId, hrest.current, hrest.usage, hrest.diagnostics⟩

theorem outcomeOf_render (a : Answer) (s : Session ε) :
    (outcomeOf (render a) s).2 = a.render.lines.foldl Session.print s := by
  unfold render
  rw [outcomeOf_bind_ok (outcomeOf_modify ..)]
  cases a.render.outcome <;> rfl

theorem nameTrace_eq {s : Session ε} {traceText : String} (h : s.lastTraceId = some traceText)
    (hne : traceText ≠ "") :
    nameTrace s = { s with diagnostics := s.diagnostics ++ [s!"TraceID: {traceText}"] } := by
  unfold nameTrace
  split
  · next hlast =>
      rw [h] at hlast
      cases hlast
  · next hlast =>
      rw [h] at hlast
      exact absurd (Option.some.inj hlast) hne
  · next id _ hlast =>
      rw [h] at hlast
      rw [Option.some.inj hlast]

theorem reported_afterwards {o : Except Failure Answer} {s : Session ε} {traceText : String}
    (htrace : ∀ f, o = .error f → f.isOrdinary = true → s.lastTraceId = some traceText)
    (hne : traceText ≠ "") :
    Reported s (outcomeOf (afterwards o) s).2 (traceLines traceText o) := by
  cases o with
  | ok a =>
      rw [afterwards, outcomeOf_render]
      exact reported_foldl_print _ s
  | error f =>
      rw [afterwards, traceLines]
      split
      · next hf =>
        let logged := s.log [⟨.error, failureLogger, "Command execution failed."⟩]
        have hreport : (outcomeOf (report f) s).2 = nameTrace logged := rfl
        have hlogged : logged.lastTraceId = some traceText := htrace f rfl hf
        rw [hreport, nameTrace_eq hlogged hne]
        exact ⟨rfl, rfl, rfl, rfl, rfl⟩
      · exact ⟨rfl, rfl, rfl, rfl, (List.append_nil _).symm⟩

/-! ## One invocation -/

/-- The name that a context gives to the run; an empty one is none. -/
def runName (context : Option RunContext) : Option String :=
  (context.map (·.runId)).filter (· ≠ "")

/-- How the command of an invocation ends, and the session that it leaves behind. -/
def commandRun (context : Option RunContext) (i : Invocation (Behaviour ε)) (s : Session ε) :
    Except Failure Answer × Session ε :=
  outcomeOf (action i context none) (sessionInside context i s)

/-- An invocation with nothing above it. -/
def visitOf (context : Option RunContext) (i : Invocation (Behaviour ε)) (s : Session ε) :
    Visit where
  options := i.options
  ending := (commandRun context i s).1
  usage := (commandRun context i s).2.usage

/-- The state of a session between invocations. -/
structure Idle (limits : Limits) (s : Session ε) : Prop where
  provider : ∃ p, s.provider = some p ∧ p.Records ∧ Provider.halves ≤ p.bound ∧ p.limits = limits
  runId : s.runId = none
  active : s.current.active.isValid = false
  baggage : s.current.baggage = []
  usage : ∀ e ∈ s.usage, Usage.Ordinary e

/-- An invocation that began in `s` is over in `after`, and `span` is its span. -/
structure Accounted (limits : Limits) (context : Option RunContext)
    (i : Invocation (Behaviour ε)) (s after : Session ε) (span : Span) : Prop where
  /-- Other spans that ended meanwhile were not opened by invocations. -/
  finished : ∃ others, after.finished = s.finished ++ others ++ [span] ∧
    ∀ x ∈ others, x.scope ≠ Scope.cli.name
  scope : span.scope = Scope.cli.name
  name : span.name = spanName i.options.path
  parent : span.parent = none
  entry : span.attributes.lookup AttributeName.cmdEntry.key = none
  run : span.attributes.lookup AttributeName.runId.key =
    (runName context).map fun id => Span.kept limits (.text id)
  runId : after.runId = s.runId
  current : after.current = s.current
  /-- Lines about the trace are printed after the command is over, and no others before it. -/
  diagnostics : (sessionInside context i s).diagnostics = s.diagnostics ∧
    after.diagnostics = (commandRun context i s).2.diagnostics ++
      traceLines span.context.traceText (commandRun context i s).1

/-- There is room on the span of the invocation for all that is written there. -/
def HasRoom (limits : Limits) (settings : Settings) (context : Option RunContext)
    (i : Invocation (Behaviour ε)) (s : Session ε) : Prop :=
  Span.Room limits (((visitOf context i s).writes (context.map (·.runId)) wellKnownDomains settings
    []).map Prod.fst)

/-- What the command of an invocation leaves alone, so that the invocation can tell of itself. A
name that the caller gave to the run is taken back in any case, so only where there is none does the
command have a say in it; and the last trace is looked up only where a failure is reported. -/
structure KeepsToItself (context : Option RunContext) (i : Invocation (Behaviour ε))
    (s : Session ε) : Prop where
  runId : context = none → (commandRun context i s).2.runId = (sessionInside context i s).runId
  lastTraceId : ∀ f, (commandRun context i s).1 = .error f → f.isOrdinary = true →
    (commandRun context i s).2.lastTraceId = (sessionInside context i s).lastTraceId
  provider : ∃ spans,
    (commandRun context i s).2.provider =
      (sessionInside context i s).provider.map (·.keeping spans) ∧
    ∀ x ∈ spans, x.scope ≠ Scope.cli.name
  usage : ∀ e ∈ (commandRun context i s).2.usage,
    e ∈ (sessionInside context i s).usage ∨ Usage.Ordinary e

theorem KeepsToItself.of_discreet {context : Option RunContext} {i : Invocation (Behaviour ε)}
    (h : Effect.Discreet (action i context none)) (s : Session ε) : KeepsToItself context i s :=
  have hspares := h (sessionInside context i s)
  ⟨fun _ => hspares.runId, fun _ _ _ => hspares.lastTraceId, hspares.provider, hspares.usage⟩

section Invocation

variable {limits : Limits} {settings : Settings} {context : Option RunContext}
  {i : Invocation (Behaviour ε)} {s : Session ε}

theorem Idle.named (h : Idle limits s) (id : Option String) :
    s.named id = { s with runId := id } := by
  cases id with
  | none =>
      have hrun := h.runId
      cases s
      cases hrun
      rfl
  | some id => rfl

def nextIdentity (s : Session ε) : SpanContext := ⟨s.ids.nextTrace.1, s.ids.span + 1, true⟩

theorem Idle.opens (h : Idle limits s) (id : Option String) :
    Interceptor.Opens (s.named id) none limits (nextIdentity s) none := by
  obtain ⟨p, hp, hrecords, hbound, rfl⟩ := h.provider
  have hhalf : s.ids.nextTrace.1 % Provider.halves < p.bound :=
    Nat.lt_of_lt_of_le (Nat.mod_lt _ (by decide)) hbound
  have hsampled : p.samples s.current.active s.ids.nextTrace.1 = true := by
    rw [Provider.samples, h.active, if_neg Bool.false_ne_true]
    exact decide_eq_true hhalf
  rw [h.named id]
  exact Interceptor.opens_of_invalid hp hrecords h.active hsampled

/-- What the command of an invocation that begins in `s` finds in its session `t`. -/
structure Found (context : Option RunContext) (s t : Session ε) : Prop where
  provider : t.provider = s.provider
  runId : t.runId = context.map (·.runId)
  lastTraceId : t.lastTraceId = some (nextIdentity s).traceText
  usage : t.usage = s.usage
  diagnostics : t.diagnostics = s.diagnostics

theorem Idle.inside (h : Idle limits s) (context : Option RunContext)
    (i : Invocation (Behaviour ε)) : Found context s (sessionInside context i s) := by
  obtain ⟨ids, -, hstart⟩ := h.opens (context.map (·.runId)) i.options
  unfold sessionInside Interceptor.inside
  rw [hstart, h.named]
  exact ⟨rfl, rfl, rfl, rfl, rfl⟩

theorem Idle.usage_commandRun (h : Idle limits s) (hkeeps : KeepsToItself context i s) :
    ∀ e ∈ (commandRun context i s).2.usage, Usage.Ordinary e := by
  intro e he
  rcases hkeeps.usage e he with he | he
  · rw [(h.inside context i).usage] at he
    exact h.usage e he
  · exact he

/-- Commands never answer with a bare value: those become results or faults. -/
theorem commandRun_ne_value (context : Option RunContext) (i : Invocation (Behaviour ε))
    (s : Session ε) (v : Value) : (commandRun context i s).1 ≠ .ok (.value v) := by
  unfold commandRun action
  rw [outcomeOf_bind]
  rcases outcomeOf (callTarget i.target ⟨i.binding, context⟩) (sessionInside context i s) with
    ⟨f | a, s'⟩
  · intro h
    cases h
  · unfold Answer.ofCommand
    cases a with
    | nothing =>
        intro h
        cases h
    | result r =>
        intro h
        cases h
    | value w =>
        simp only []
        split
        · intro h
          cases h
        · intro h
          cases h

/-- An answer that is no bare value stays an answer when the invocation ends. -/
theorem ended_of_no_value {a : Answer} (h : ∀ v, (.ok a : Except Failure Answer) ≠ .ok (.value v))
    (t : String) : ∃ r, Course.ended t (.ok a) = .ok (.result r) := by
  obtain ⟨r, hstamp, -⟩ :=
    Interceptor.stamp_of_no_value (fun v hv => h v (congrArg Except.ok hv)) t
  refine ⟨r, ?_⟩
  rw [Course.ended, hstamp]
  rfl

theorem ended_eq_error_iff {o : Except Failure Answer} (h : ∀ v, o ≠ .ok (.value v)) {t : String}
    {f : Failure} : Course.ended t o = .error f ↔ o = .error f := by
  cases o with
  | error g => exact Iff.rfl
  | ok a =>
      obtain ⟨r, hended⟩ := ended_of_no_value h t
      rw [hended]
      exact iff_of_false (fun h => by cases h) (fun h => by cases h)

theorem traceLines_ended {o : Except Failure Answer} (h : ∀ v, o ≠ .ok (.value v))
    (traceText t : String) : traceLines traceText (Course.ended t o) = traceLines traceText o := by
  cases o with
  | error f => rfl
  | ok a =>
      obtain ⟨r, hended⟩ := ended_of_no_value h t
      rw [hended]
      rfl

def lastSpan (limits : Limits) (settings : Settings) (context : Option RunContext)
    (i : Invocation (Behaviour ε)) (s : Session ε) : Span :=
  (visitOf context i s).span limits (context.map (·.runId)) wellKnownDomains settings
    s.loaded.instrumentation.scopeVersion (nextIdentity s) none []

theorem Idle.outcomeOf_chain (h : Idle limits s) (hkeeps : KeepsToItself context i s) :
    outcomeOf (Action.run (usualChain settings) none i.options (action i context))
        (s.named (context.map (·.runId))) =
      (Course.ended (nextIdentity s).traceText (commandRun context i s).1,
       ((visitOf context i s).logged wellKnownDomains settings
        ((commandRun context i s).2.withCurrent s.current)).endSpan
          (lastSpan limits settings context i s)) := by
  have hbaggage : ((s.named (context.map (·.runId))).contextOr none).baggage =
      Visit.entryBaggage [] := by
    rw [h.named]
    exact h.baggage
  have hcommand : outcomeOf (action i context
      (some (Interceptor.contextInside i.options none (s.named (context.map (·.runId))))))
      (Interceptor.inside i.options none (s.named (context.map (·.runId)))) =
        ((commandRun context i s).1, (commandRun context i s).2) := rfl
  have hvalues : ∀ e ∈ (commandRun context i s).2.notes.1, IsSpanFact e :=
    fun e he => (h.usage_commandRun hkeeps e he).fact
  have hrun : outcomeOf (Course.invocation (·.1) wellKnownDomains settings false none i.options
      (action i context)) (s.named (context.map (·.runId))) = _ :=
    Course.outcomeOf_invocation wellKnownDomains settings (h.opens (context.map (·.runId)))
      hbaggage hcommand hvalues
  have hrunId : (s.named (context.map (·.runId))).runId = context.map (·.runId) := by rw [h.named]
  have hcurrent : (s.named (context.map (·.runId))).current = s.current := by rw [h.named]
  have hloaded : (s.named (context.map (·.runId))).loaded = s.loaded := by rw [h.named]
  rw [hrunId, hcurrent, hloaded] at hrun
  exact hrun

/-- What the command left behind once the span has ended, with context and run as before. -/
def settled (limits : Limits) (settings : Settings) (context : Option RunContext)
    (i : Invocation (Behaviour ε)) (s : Session ε) : Session ε :=
  { (visitOf context i s).logged wellKnownDomains settings (commandRun context i s).2 with
    current := s.current
    runId := s.runId
    provider :=
      (commandRun context i s).2.provider.map (·.finish (lastSpan limits settings context i s)) }

theorem Idle.unnamed_eq (h : Idle limits s) (hkeeps : KeepsToItself context i s) :
    (((visitOf context i s).logged wellKnownDomains settings
        ((commandRun context i s).2.withCurrent s.current)).endSpan
          (lastSpan limits settings context i s)).unnamed s (context.map (·.runId)) =
      settled limits settings context i s := by
  cases context with
  | none =>
      -- Where no name was given, none is given back, but the command gave none either.
      have hleft : (commandRun none i s).2.runId = s.runId :=
        (hkeeps.runId rfl).trans ((h.inside none i).runId.trans h.runId.symm)
      unfold settled
      rw [← hleft]
      rfl
  | some c => rfl

theorem Idle.provider_settled (settings : Settings) (h : Idle limits s)
    (hkeeps : KeepsToItself context i s) {p : Provider} (hp : s.provider = some p)
    (hrecords : p.Records) :
    ∃ others, (∀ x ∈ others, x.scope ≠ Scope.cli.name) ∧
      (settled limits settings context i s).provider =
        some (p.keeping (others ++ [lastSpan limits settings context i s])) := by
  obtain ⟨others, hothers, hscopes⟩ := hkeeps.provider
  have hleft : (commandRun context i s).2.provider = some (p.keeping others) := by
    rw [(h.inside context i).provider, hp] at hothers
    exact hothers
  refine ⟨others, hscopes, ?_⟩
  rw [settled, hleft, Option.map_some, Provider.finish_of_records (hrecords.keeping others) rfl,
    Provider.keeping_keeping]

theorem Idle.reported (settings : Settings) (h : Idle limits s)
    (hkeeps : KeepsToItself context i s) {grammar : Grammar (Behaviour ε)} {words : List String}
    (hparse : Invocation.ofWords grammar s.environment words = .ok i) :
    Reported (settled limits settings context i s)
      (outcomeOf (invoke grammar context (usualChain settings) words) s).2
      (traceLines (nextIdentity s).traceText (commandRun context i s).1) := by
  have hvalue := commandRun_ne_value context i s
  -- The report names the last trace of the session, which is still that of this invocation.
  have hlast : ∀ f,
      Course.ended (nextIdentity s).traceText (commandRun context i s).1 = .error f →
      f.isOrdinary = true →
      (settled limits settings context i s).lastTraceId = some (nextIdentity s).traceText :=
    fun f hended hf => (hkeeps.lastTraceId f ((ended_eq_error_iff hvalue).1 hended) hf).trans
      (h.inside context i).lastTraceId
  rw [outcomeOf_invoke_of_run hparse (h.outcomeOf_chain hkeeps), h.unnamed_eq hkeeps,
    ← traceLines_ended hvalue _ (nextIdentity s).traceText]
  exact reported_afterwards hlast (nextIdentity s).traceText_ne_empty

/-- An invocation of a command that keeps to itself leaves an idle session idle, and is accounted
for. -/
theorem Idle.invoke (h : Idle limits s) (hkeeps : KeepsToItself context i s)
    (hroom : HasRoom limits settings context i s) {grammar : Grammar (Behaviour ε)}
    {words : List String} (hparse : Invocation.ofWords grammar s.environment words = .ok i) :
    Idle limits (outcomeOf (invoke grammar context (usualChain settings) words) s).2 ∧
      Accounted limits context i s
        (outcomeOf (invoke grammar context (usualChain settings) words) s).2
        (lastSpan limits settings context i s) := by
  obtain ⟨p, hp, hrecords, hbound, hlimits⟩ := h.provider
  obtain ⟨others, hscopes, hprovider⟩ := h.provider_settled settings hkeeps hp hrecords
  have hfacts := h.usage_commandRun hkeeps
  -- With nothing above it the invocation finds no entry, so there is none to be cut.
  have hfits : (visitOf context i s).Fits limits (context.map (·.runId)) wellKnownDomains settings
      [] :=
    ⟨fun e he => (hfacts e he).fact, fun e he => (hfacts e he).entry, hroom,
      fun name hname => by cases hname⟩
  have hreported := h.reported settings hkeeps hparse
  generalize (outcomeOf (Program.invoke grammar context (usualChain settings) words) s).2 = after
    at hreported
  have hkept := hreported.provider.trans hprovider
  have hrunId : after.runId = s.runId := hreported.runId
  have hcurrent : after.current = s.current := hreported.current
  constructor
  · refine ⟨⟨_, hkept, hrecords.keeping _, hbound, hlimits⟩, hrunId.trans h.runId, ?_, ?_, ?_⟩
    · rw [hcurrent, h.active]
    · rw [hcurrent, h.baggage]
    · rw [hreported.usage]
      exact hfacts
  · refine ⟨⟨others, ?_, hscopes⟩, rfl, rfl, rfl, Visit.lookup_cmdEntry hfits _ _ _,
      Visit.lookup_runId hfits (fun e he => (hfacts e he).run) _ _ _, hrunId, hcurrent,
      (h.inside context i).diagnostics, hreported.diagnostics⟩
    rw [Session.finished, Session.finished, hkept, hp, List.append_assoc]
    rfl

end Invocation

/-! ## Histories -/

/-- A command line, and the context of the run that its caller has for it. -/
structure Request (ε : Type) where
  grammar : Grammar (Behaviour ε)
  context : Option RunContext := none
  words : List String

/-- A request that was made of a session. -/
structure Turn (ε : Type) where
  request : Request ε
  before : Session ε
  outcome : Except Failure Int
  after : Session ε

def Request.turn (settings : Settings) (r : Request ε) (s : Session ε) : Turn ε :=
  let (outcome, after) := outcomeOf (invoke r.grammar r.context (usualChain settings) r.words) s
  ⟨r, s, outcome, after⟩

/-- Requests are made one after the other, whatever becomes of each. -/
def turns (settings : Settings) : List (Request ε) → Session ε → List (Turn ε)
  | [], _ => []
  | r :: rest, s => r.turn settings s :: turns settings rest (r.turn settings s).after

namespace Turn

def reading (t : Turn ε) : Except Refusal (Invocation (Behaviour ε)) :=
  Invocation.ofWords t.request.grammar t.before.environment t.request.words

/-- A command line that is refused changes nothing, and any other one is accounted for. -/
def Accounted (limits : Limits) (t : Turn ε) : Prop :=
  match t.reading with
  | .error _ => t.after = t.before
  | .ok i => ∃ span, Program.Accounted limits t.request.context i t.before t.after span

end Turn

theorem outcomeOf_invoke_refused {grammar : Grammar (Behaviour ε)} {context : Option RunContext}
    {chain : List (Factory (Session ε))} {words : List String} {s : Session ε} {r : Refusal}
    (hparse : Invocation.ofWords grammar s.environment words = .error r) :
    outcomeOf (invoke grammar context chain words) s = (.ok r.exitCode.number, s) := by
  unfold invoke
  rw [outcomeOf_bind_ok (outcomeOf_get s), hparse]
  rfl

theorem Idle.turn {limits : Limits} {settings : Settings} {s : Session ε} (h : Idle limits s)
    {r : Request ε}
    (hcommand : ∀ i, (r.turn settings s).reading = .ok i →
      KeepsToItself r.context i s ∧ HasRoom limits settings r.context i s) :
    Idle limits (r.turn settings s).after ∧ (r.turn settings s).Accounted limits := by
  unfold Turn.Accounted
  have hreading : (r.turn settings s).reading =
      Invocation.ofWords r.grammar s.environment r.words := rfl
  cases hparse : (r.turn settings s).reading with
  | error refusal =>
      rw [hreading] at hparse
      have hrefused :
          outcomeOf (Program.invoke r.grammar r.context (usualChain settings) r.words) s = _ :=
        outcomeOf_invoke_refused hparse
      have hafter : (r.turn settings s).after = s := congrArg Prod.snd hrefused
      refine ⟨?_, hafter⟩
      rw [hafter]
      exact h
  | ok i =>
      obtain ⟨hkeeps, hroom⟩ := hcommand i hparse
      rw [hreading] at hparse
      obtain ⟨hidle, haccounted⟩ := h.invoke hkeeps hroom hparse
      exact ⟨hidle, _, haccounted⟩

/-- Every request of a history is accounted for if it begins idle and all commands that are run keep
to themselves. -/
theorem turns_accounted {limits : Limits} {settings : Settings} {requests : List (Request ε)}
    {s : Session ε} (hidle : Idle limits s)
    (hcommand : ∀ t ∈ turns settings requests s, ∀ i, t.reading = .ok i →
      KeepsToItself t.request.context i t.before ∧
        HasRoom limits settings t.request.context i t.before) :
    ∀ t ∈ turns settings requests s, t.Accounted limits := by
  induction requests generalizing s with
  | nil =>
      intro t ht
      cases ht
  | cons r rest ih =>
      obtain ⟨hnext, hfirst⟩ := hidle.turn (hcommand (r.turn settings s) List.mem_cons_self)
      intro t ht
      rcases List.mem_cons.1 ht with rfl | ht
      · exact hfirst
      · exact ih hnext (fun t ht => hcommand t (List.mem_cons_of_mem _ ht)) t ht

/-- Every turn of a history makes one of its requests. -/
theorem request_mem_of_mem_turns {settings : Settings} {requests : List (Request ε)}
    {s : Session ε} {t : Turn ε} (h : t ∈ turns settings requests s) : t.request ∈ requests := by
  induction requests generalizing s with
  | nil => cases h
  | cons r rest ih =>
      rcases List.mem_cons.1 h with rfl | h
      · exact List.mem_cons_self
      · exact List.mem_cons_of_mem _ (ih h)

def spaciousSession : Session Unit :=
  { Session.recording with
    provider := some { Provider.recording with limits := ⟨none, none⟩ } }

def nightly : Option RunContext := some { runId := "nightly" }

/-- A tool that is not installed, a command line without a tool, and a look at the version. -/
def nightlyRequests : List (Request Unit) :=
  [⟨grammar, nightly, ["exec", "make"]⟩, ⟨grammar, nightly, ["exec"]⟩, ⟨grammar, none, ["version"]⟩]

theorem ofWords_exec (env : Environment) :
    Invocation.ofWords (grammar (ε := Unit)) env ["exec", "make"] =
      .ok ⟨["exec"], .command execCommand,
        [⟨toolParameter, [.byPosition "make"]⟩, ⟨wordsParameter, []⟩,
          ⟨directoryParameter, []⟩]⟩ := by
  have hread : Invocation.ofWords (grammar (ε := Unit)) env ["exec", "make"] =
      (Binding.ofWords env [toolParameter, wordsParameter, directoryParameter] ["make"]).map
        fun b => ⟨["exec"], .command execCommand, b⟩ := rfl
  have hscan : Binding.scan [⟨toolParameter, []⟩, ⟨wordsParameter, []⟩, ⟨directoryParameter, []⟩]
      ["make"] = .ok ([⟨toolParameter, []⟩, ⟨wordsParameter, []⟩, ⟨directoryParameter, []⟩],
        [{ text := "make" }]) := by
    have hhyphen : hasHyphen "make" = false := by decide
    rw [Binding.scan, if_neg (by decide), hhyphen, if_neg Bool.false_ne_true, Binding.scan]
    rfl
  rw [hread, Binding.ofWords, Binding.ofParameters, List.map, List.map, List.map, List.map, hscan]
  rfl

theorem ofWords_exec_alone (env : Environment) :
    Invocation.ofWords (grammar (ε := Unit)) env ["exec"] = .error .missingArgument := by
  cbv

theorem ofWords_version (env : Environment) :
    Invocation.ofWords (grammar (ε := Unit)) env ["version"] =
      .ok ⟨["version"], .command versionCommand, [⟨contextParameter, []⟩]⟩ := by
  cbv

theorem nightlyRequests_accounted :
    ∃ first second third,
      turns usualSettings nightlyRequests spaciousSession = [first, second, third] ∧
      (∃ others span, first.after.finished = others ++ [span] ∧ span.parent = none ∧
        span.attributes.lookup AttributeName.runId.key = some (.text "nightly") ∧
        first.after.runId = none ∧
        first.after.diagnostics = [s!"TraceID: {span.context.traceText}"]) ∧
      second.after = second.before ∧
      ∃ others span, third.after.finished = third.before.finished ++ others ++ [span] ∧
        span.parent = none ∧ span.attributes.lookup AttributeName.runId.key = none := by
  have hidle : Idle ⟨none, none⟩ spaciousSession :=
    ⟨⟨_, rfl, ⟨rfl, rfl, rfl⟩, Nat.le_refl _, rfl⟩, rfl, rfl, rfl, fun e he => by cases he⟩
  have hgrammar : ∀ r ∈ nightlyRequests, r.grammar = grammar := by
    intro r hr
    simp only [nightlyRequests, List.mem_cons, List.not_mem_nil, or_false] at hr
    rcases hr with rfl | rfl | rfl <;> rfl
  have hkeeps : ∀ t ∈ turns usualSettings nightlyRequests spaciousSession, ∀ i,
      t.reading = .ok i → KeepsToItself t.request.context i t.before := by
    intro t ht i hparse
    have hdiscreet : HasDiscreetCommands t.request.grammar := by
      rw [hgrammar t.request (request_mem_of_mem_turns ht)]
      exact hasDiscreetCommands_grammar
    exact .of_discreet (discreet_action hdiscreet hparse _ none) t.before
  have haccounted := turns_accounted hidle fun t ht i hparse =>
    ⟨hkeeps t ht i hparse, fun n hn => by cases hn⟩
  let first := (⟨grammar, nightly, ["exec", "make"]⟩ : Request Unit).turn usualSettings
    spaciousSession
  let second := (⟨grammar, nightly, ["exec"]⟩ : Request Unit).turn usualSettings first.after
  let third := (⟨grammar, none, ["version"]⟩ : Request Unit).turn usualSettings second.after
  have hturns : turns usualSettings nightlyRequests spaciousSession = [first, second, third] := rfl
  rw [hturns] at haccounted
  simp only [List.forall_mem_cons] at haccounted
  obtain ⟨hfirst, hsecond, hthird, -⟩ := haccounted
  refine ⟨first, second, third, hturns, ?_, ?_, ?_⟩
  · have hreading : first.reading = _ := ofWords_exec _
    rw [Turn.Accounted, hreading] at hfirst
    obtain ⟨span, hspan⟩ := hfirst
    obtain ⟨others, hfinished, -⟩ := hspan.finished
    refine ⟨others, span, hfinished, hspan.parent, hspan.run, hspan.runId, ?_⟩
    exact hspan.diagnostics.2
  · have hreading : second.reading = _ := ofWords_exec_alone _
    rw [Turn.Accounted, hreading] at hsecond
    exact hsecond
  · have hreading : third.reading = _ := ofWords_version _
    rw [Turn.Accounted, hreading] at hthird
    obtain ⟨span, hspan⟩ := hthird
    obtain ⟨others, hfinished, -⟩ := hspan.finished
    exact ⟨others, span, hfinished, hspan.parent, hspan.run⟩

/-! ## Other commands -/

def crampedSession : Session Unit :=
  { Session.recording with
    provider := some { Provider.recording with limits := ⟨some 3, some 4⟩ } }

/-- A request for the one command of a program. -/
def job (context : Option RunContext) (e : Effect (Session Unit) Answer) : Request Unit where
  grammar := { entries := [.command "job" [] { name := "job", behaviour := fun _ => e }] }
  context
  words := ["job"]

def jobInvocation (e : Effect (Session Unit) Answer) : Invocation (Behaviour Unit) where
  path := ["job"]
  target := .command { name := "job", behaviour := fun _ => e }

/-- The chain of a job, in a session where the run has its name already. -/
def jobChain (context : Option RunContext) (e : Effect (Session Unit) Answer) (s : Session Unit) :
    Except Failure Answer × Session Unit :=
  outcomeOf (Action.run usualChain none (jobInvocation e).options
    (action (jobInvocation e) context)) (s.named (context.map (·.runId)))

theorem after_job (context : Option RunContext) (e : Effect (Session Unit) Answer)
    (s : Session Unit) :
    ((job context e).turn usualSettings s).after =
      (outcomeOf (afterwards (jobChain context e s).1)
        ((jobChain context e s).2.unnamed s (context.map (·.runId)))).2 := by
  have hparse : Invocation.ofWords (job context e).grammar s.environment ["job"] =
      .ok (jobInvocation e) := by cbv
  exact congrArg Prod.snd (outcomeOf_invoke_of_run hparse rfl)

theorem after_failed_job {e : Effect (Session Unit) Answer} {f : Failure} {left : Session Unit}
    (hcommand : commandRun none (jobInvocation e) Session.recording = (.error f, left))
    (hf : f.isOrdinary = true) (husage : left.usage = []) :
    ∃ span, ((job none e).turn usualSettings Session.recording).after =
      nameTrace (((left.withCurrent {}).endSpan span).log
        [⟨.error, failureLogger, "Command execution failed."⟩]) := by
  have hfails : Fails none (jobInvocation e) Session.recording f (left.withCurrent {}) :=
    ⟨left, hcommand, rfl⟩
  have hnormal : normalize usualSettings (left.withCurrent {}).usage = .ok (pure []) := by
    have hsame : (left.withCurrent {}).usage = left.usage := rfl
    rw [hsame, husage]
    rfl
  have hchain := outcomeOf_chain_of_fails wellKnownDomains usualSettings (·.usage) hfails
  simp only [Interceptor.settled_usual, hnormal] at hchain
  have hjob : jobChain none e Session.recording = _ := hchain
  have hlog : (left.withCurrent {}).log (pure [] : Logged Attributes).records =
      left.withCurrent {} := Session.log_nil _
  rw [after_job, hjob, afterwards, if_pos hf, hlog]
  exact ⟨_, rfl⟩

def counting : Effect (Session Unit) Answer := do
  modify fun s => { s with usage := s.usage.set (.text "files") (.int 3) }
  pure .nothing

/-- A job that names the run and records facts about itself under the keys of others. -/
def meddling : Effect (Session Unit) Answer := do
  modify fun s =>
    { s with
      runId := some "left"
      usage :=
        [(.text AttributeName.cmdEntry.key, .text "x"),
          (.text AttributeName.runId.key, .text "y")] }
  pure .nothing

def forgetting : Effect (Session Unit) Answer := do
  modify fun s => { s with lastTraceId := none }
  throw (Failure.single (Failure.Node.general "ValueError" "no index"))

/-- Where spans are cramped, or a command is not discreet or answers with a text, an invocation
ends otherwise. -/
theorem jobs_leak :
    (∃ t, turns usualSettings [job nightly (pure .nothing)] crampedSession = [t] ∧
      t.after.finished.map (·.attributes.lookup AttributeName.runId.key) =
        [some (.text "nigh")]) ∧
    (∃ t, turns usualSettings [job nightly counting] crampedSession = [t] ∧
      t.after.finished.map (·.attributes.lookup AttributeName.runId.key) = [none]) ∧
    (∃ t, turns usualSettings [job none meddling] Session.recording = [t] ∧
      t.after.runId = some "left" ∧
      t.after.finished.map (·.attributes.lookup AttributeName.cmdEntry.key) = [some (.text "x")] ∧
      t.after.finished.map (·.attributes.lookup AttributeName.runId.key) = [some (.text "y")]) ∧
    (∃ t, turns usualSettings [job none forgetting] Session.recording = [t] ∧
      t.after.diagnostics = []) ∧
    ∃ t, turns usualSettings [job none (pure (.value (.text "done")))] Session.recording = [t] ∧
      t.after.diagnostics = ["TraceID: 00000000000000000000000000000001"] := by
  refine ⟨⟨_, rfl, ?_⟩, ⟨_, rfl, ?_⟩, ⟨_, rfl, ?_, ?_, ?_⟩, ⟨_, rfl, ?_⟩, ⟨_, rfl, ?_⟩⟩
  · rw [after_job]
    rfl
  · rw [after_job]
    rfl
  · rw [after_job]
    rfl
  · rw [after_job]
    rfl
  · rw [after_job]
    rfl
  · obtain ⟨span, hspan⟩ := after_failed_job (e := forgetting) rfl (by cbv) rfl
    rw [hspan]
    rfl
  · obtain ⟨span, hspan⟩ := after_failed_job (e := pure (.value (.text "done"))) rfl
      (Failure.isOrdinary_ofFault _) rfl
    rw [hspan]
    rfl

end Program

end CommandTelemetry
