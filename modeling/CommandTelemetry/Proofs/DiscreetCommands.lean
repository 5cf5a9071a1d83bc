import CommandTelemetry.Program.Commands
import CommandTelemetry.Program.Invoke
import CommandTelemetry.Proofs.NestedSpans

/-!
# Commands that keep to themselves

What invocations tell of themselves stands in places of the session that commands can reach as well:
the name of the run, the last trace, the spans of the command line, and the usage, whose facts share
their keys with the other attributes of a span. A command is discreet if it leaves these places
alone, whichever session it is run in. The context is not among them, since the interceptor puts
back the one from before whatever a command leaves behind.

Steps that are put together from discreet ones are discreet, and so is every command of the program.
-/

namespace CommandTelemetry

open Trace CommandLine

open Script (outcomeOf)

/-! ## Facts -/

/-- A fact that a span takes, under a key that no invocation writes by itself. -/
structure Usage.Ordinary (e : Value × Value) : Prop where
  fact : Attribute.IsSpanFact e
  entry : e.1.display ≠ .ok AttributeName.cmdEntry.key
  run : e.1.display ≠ .ok AttributeName.runId.key

theorem Value.eq_text_of_same {v : Value} {s : String} (h : Value.same v (.text s) = true) :
    v = .text s := by
  cases v with
  | text t => rw [of_decide_eq_true h]
  | _ => simp [Value.same, Value.asInt?] at h

theorem Usage.mem_set_text {u : Usage} {name : String} {v : Value} {e : Value × Value}
    (h : e ∈ u.set (.text name) v) : e ∈ u ∨ e = (.text name, v) := by
  unfold Usage.set at h
  induction u with
  | nil => exact Or.inr (List.mem_singleton.1 h)
  | cons f rest ih =>
      rw [Value.insertEntry] at h
      split at h
      · next hsame =>
          rw [Value.eq_text_of_same hsame] at h
          rcases List.mem_cons.1 h with h | h
          · exact Or.inr h
          · exact Or.inl (List.mem_cons_of_mem _ h)
      · rcases List.mem_cons.1 h with h | h
        · exact Or.inl (h ▸ List.mem_cons_self)
        · exact (ih h).imp_left (List.mem_cons_of_mem _)

/-! ## Steps -/

theorem Trace.Provider.keeping_nil (p : Provider) : p.keeping [] = p := by
  simp [keeping]

variable {ε α β : Type}

/-- How a session may differ after a discreet step. -/
structure Spares (s s' : Session ε) : Prop where
  runId : s'.runId = s.runId
  lastTraceId : s'.lastTraceId = s.lastTraceId
  provider : ∃ spans, s'.provider = s.provider.map (·.keeping spans) ∧
    ∀ x ∈ spans, x.scope ≠ Scope.cli.name
  usage : ∀ e ∈ s'.usage, e ∈ s.usage ∨ Usage.Ordinary e

namespace Spares

variable {s s' s'' : Session ε}

theorem of_provider_eq (hrun : s'.runId = s.runId) (htrace : s'.lastTraceId = s.lastTraceId)
    (hprovider : s'.provider = s.provider)
    (husage : ∀ e ∈ s'.usage, e ∈ s.usage ∨ Usage.Ordinary e) : Spares s s' := by
  refine ⟨hrun, htrace, ⟨[], ?_, fun x hx => absurd hx List.not_mem_nil⟩, husage⟩
  rw [hprovider]
  cases s.provider with
  | none => rfl
  | some p => rw [Option.map_some, p.keeping_nil]

theorem of_eq (hrun : s'.runId = s.runId) (htrace : s'.lastTraceId = s.lastTraceId)
    (hprovider : s'.provider = s.provider) (husage : s'.usage = s.usage) : Spares s s' :=
  of_provider_eq hrun htrace hprovider fun _ he => Or.inl (husage ▸ he)

theorem refl (s : Session ε) : Spares s s := of_eq rfl rfl rfl rfl

theorem trans (h : Spares s s') (h' : Spares s' s'') : Spares s s'' := by
  obtain ⟨spans, hspans, hscopes⟩ := h.provider
  obtain ⟨more, hmore, hscopes'⟩ := h'.provider
  refine ⟨h'.runId.trans h.runId, h'.lastTraceId.trans h.lastTraceId,
    ⟨spans ++ more, ?_, ?_⟩, ?_⟩
  · rw [hmore, hspans]
    cases s.provider with
    | none => rfl
    | some p =>
        rw [Option.map_some, Option.map_some, Option.map_some, Provider.keeping_keeping]
  · intro x hx
    exact (List.mem_append.1 hx).elim (hscopes x) (hscopes' x)
  · intro e he
    rcases h'.usage e he with he | he
    · exact h.usage e he
    · exact Or.inr he

end Spares

namespace Effect

/-- The step spares every session. -/
def Discreet (e : Effect (Session ε) α) : Prop := ∀ s, Spares s (outcomeOf e s).2

theorem discreet_pure (a : α) : Discreet (pure a : Effect (Session ε) α) :=
  fun s => Spares.refl s

theorem discreet_throw (f : Failure) : Discreet (throw f : Effect (Session ε) α) :=
  fun s => Spares.refl s

theorem discreet_get : Discreet (get : Effect (Session ε) (Session ε)) := fun s => Spares.refl s

theorem discreet_ofExcept (x : Except Fault α) :
    Discreet (Effect.ofExcept x : Effect (Session ε) α) := by
  cases x with
  | ok a => exact discreet_pure a
  | error g => exact discreet_throw (Failure.ofFault g)

theorem discreet_take (x : Logged α) : Discreet (Session.take x : Effect (Session ε) α) :=
  fun _ => Spares.of_eq rfl rfl rfl rfl

theorem discreet_modify {g : Session ε → Session ε} (h : ∀ s, Spares s (g s)) :
    Discreet (modify g : Effect (Session ε) Unit) := h

theorem Discreet.bind {e : Effect (Session ε) α} {k : α → Effect (Session ε) β}
    (he : Discreet e) (hk : ∀ a, Discreet (k a)) : Discreet (e >>= k) := by
  intro s
  have hfirst := he s
  rw [outcomeOf_bind]
  revert hfirst
  rcases outcomeOf e s with ⟨a | a, s'⟩
  · -- Where the first step fails, the second one never starts.
    exact id
  · exact fun hfirst => hfirst.trans (hk a s')

end Effect

/-! ## The commands of the program -/

namespace Program

open Effect

theorem discreet_settingsOf (context : Option RunContext) :
    Discreet (settingsOf (ε := ε) context) := by
  unfold settingsOf
  split
  · exact discreet_pure _
  · exact discreet_get.bind fun s => discreet_take _

theorem discreet_printDocument (d : Json.Document) : Discreet (printDocument (ε := ε) d) :=
  discreet_modify fun _ => Spares.of_eq rfl rfl rfl rfl

theorem discreet_showVersion (context : Option RunContext) :
    Discreet (showVersion (ε := ε) context) := by
  refine (discreet_settingsOf context).bind fun settings => ?_
  refine discreet_get.bind fun s => ?_
  exact (discreet_printDocument _).bind fun _ => discreet_pure _

theorem discreet_showSettings (context : Option RunContext) :
    Discreet (showSettings (ε := ε) context) := by
  refine (discreet_settingsOf context).bind fun settings => ?_
  refine (discreet_ofExcept _).bind fun document => ?_
  exact (discreet_printDocument _).bind fun _ => discreet_pure _

theorem discreet_noteTool (tool : String) : Discreet (noteTool (ε := ε) tool) := by
  refine discreet_modify fun s => Spares.of_provider_eq rfl rfl rfl fun e he => ?_
  refine (Usage.mem_set_text he).imp_right ?_
  rintro rfl
  have hentry : AttributeName.toolInvoked.key ≠ AttributeName.cmdEntry.key := by decide
  have hrun : AttributeName.toolInvoked.key ≠ AttributeName.runId.key := by decide
  exact ⟨⟨⟨_, rfl⟩, rfl⟩, fun h => hentry (Except.ok.inj h), fun h => hrun (Except.ok.inj h)⟩

theorem discreet_readClock : Discreet (readClock (ε := ε)) := by
  intro s
  unfold readClock outcomeOf
  dsimp only
  cases s.host.clock with
  | nil => exact Spares.refl s
  | cons t rest => exact Spares.of_eq rfl rfl rfl rfl

theorem discreet_start (command : List String) (directory : Option String) :
    Discreet (start (ε := ε) command directory) :=
  fun _ => Spares.of_eq rfl rfl rfl rfl

theorem discreet_runTool (tool : String) (words : List String) (directory : Option String) :
    Discreet (runTool (ε := ε) tool words directory) := by
  refine (discreet_noteTool tool).bind fun _ => ?_
  refine (discreet_take _).bind fun _ => ?_
  refine discreet_get.bind fun s => ?_
  refine discreet_readClock.bind fun started => ?_
  refine (discreet_start _ _).bind fun run => ?_
  cases run with
  | notFound => exact discreet_throw _
  | notPermitted => exact discreet_throw _
  | exited status =>
      refine discreet_readClock.bind fun ended => ?_
      simp only []
      split
      · exact discreet_pure _
      · exact discreet_throw _

/-- Every command that some words lead to is discreet, however it is called. -/
def HasDiscreetCommands (g : Grammar (Behaviour ε)) : Prop :=
  ∀ words c, (g.locate words).command = some c → ∀ call, Discreet (c.behaviour call)

/-- Words lead to a command that stands among the entries or inside a group among them. -/
theorem entry_of_follow {entries : List (Entry (Behaviour ε))} {words : List String}
    {c : Command (Behaviour ε)} (h : (Grammar.follow entries words).command = some c) :
    (∃ name aliases, .command name aliases c ∈ entries) ∨
      ∃ name aliases inner rest, .group name aliases inner ∈ entries ∧
        (Grammar.follow inner rest).command = some c := by
  cases words with
  | nil => cases h
  | cons w rest =>
      rw [Grammar.follow] at h
      split at h
      · cases h
      · next name aliases found hfind =>
          obtain rfl := Option.some.inj h
          exact Or.inl ⟨name, aliases, List.mem_of_find?_eq_some hfind⟩
      · next name aliases inner hfind =>
          exact Or.inr ⟨name, aliases, inner, rest, List.mem_of_find?_eq_some hfind, h⟩

theorem hasDiscreetCommands_grammar : HasDiscreetCommands (grammar (ε := ε)) := by
  intro words c hc call
  -- Groups stand at the top only, so two looks at the entries find every command.
  rcases entry_of_follow hc with ⟨name, aliases, hmem⟩ | ⟨name, aliases, inner, rest, hmem, hinner⟩
  · have hcommand : (name = "exec" ∧ aliases = [] ∧ c = execCommand) ∨
        name = "version" ∧ aliases = ["v"] ∧ c = versionCommand := by
      simpa [grammar] using hmem
    rcases hcommand with ⟨-, -, rfl⟩ | ⟨-, -, rfl⟩
    · exact discreet_runTool _ _ _
    · exact discreet_showVersion call.context
  · have hgroup : name = "telemetry" ∧ aliases = [] ∧
        inner = [.command "show" [] settingsCommand] := by
      simpa [grammar] using hmem
    obtain ⟨-, -, rfl⟩ := hgroup
    rcases entry_of_follow hinner with ⟨name, aliases, hmem⟩ | ⟨name, aliases, inner, rest, hmem, -⟩
    · cases List.mem_singleton.1 hmem
      exact discreet_showSettings call.context
    · cases List.mem_singleton.1 hmem

theorem target_of_ofWords {g : Grammar (Behaviour ε)} {env : Environment} {words : List String}
    {i : Invocation (Behaviour ε)} (h : Invocation.ofWords g env words = .ok i)
    {c : Command (Behaviour ε)} (hc : i.target = .command c) :
    (g.locate words).command = some c := by
  unfold Invocation.ofWords at h
  simp only [] at h
  split at h
  · cases h
    cases hc
  · split at h
    · cases h
      cases hc
    · split at h
      · next command hcommand =>
          cases hbinding : Binding.ofWords env command.parameters (g.locate words).rest with
          | error r =>
              rw [hbinding] at h
              cases h
          | ok binding =>
              rw [hbinding] at h
              cases h
              rw [hcommand, Target.command.inj hc]
      · split at h
        · cases h
          cases hc
        · cases h

theorem discreet_action {g : Grammar (Behaviour ε)} (hg : HasDiscreetCommands g)
    {env : Environment} {words : List String} {i : Invocation (Behaviour ε)}
    (hparse : Invocation.ofWords g env words = .ok i) (context : Option RunContext)
    (ctx : Option Context) : Discreet (action i context ctx) := by
  refine Discreet.bind ?_ fun answer => discreet_ofExcept _
  unfold callTarget
  cases htarget : i.target with
  | help => exact discreet_pure _
  | version =>
      exact Discreet.bind (fun s => Spares.of_eq rfl rfl rfl rfl) fun _ => discreet_pure _
  | command c =>
      simp only []
      split
      · exact discreet_ofExcept (.error _)
      · exact hg words c (target_of_ofWords hparse htarget) _

end Program

end CommandTelemetry
