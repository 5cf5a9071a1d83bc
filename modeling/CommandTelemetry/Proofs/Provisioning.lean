import CommandTelemetry.Proofs.Outcome
import CommandTelemetry.Proofs.SpanLimits
import CommandTelemetry.Session.Provision

/-!
# One provider for a process

A process may state settings any number of times, in any environment, and may shut telemetry down
between any two statements. What it makes of them depends on one thing only, whether a provider was
installed before. Up to the first settings that are turned on and can be built, nothing is installed
and nothing else changes; those settings install their provider; from then on every call yields that
provider, also where its own settings are turned off or could not be built, and also after a shut
down.

What the installed provider does is said in terms of its settings: where spans go, how many of the
low halves of trace identifiers are sampled, and the limits as they are stated there and in the
variables.

There are two states, `Bare` and `Provided`, with one step lemma each. A sequence of calls stays in
the first state for a while, leaves it at most once, and stays in the second one for good.
-/

namespace CommandTelemetry.Provision

open Numeral Trace

open Script (outcomeOf)

variable {ε : Type}

/-- What a process does about its telemetry. The environment of settings is the one in which they
are stated. -/
inductive Call where
  | configure (environment : Environment) (settings : TelemetrySettings)
  | shutDown

/-- The session in another environment. -/
def under (s : Session ε) (env : Environment) : Session ε := { s with environment := env }

def Call.effect : Call → Effect (Session ε) (Option Provider)
  | .configure env settings => do
    modify fun s => under s env
    Session.provide settings
  | .shutDown => do
    Session.shutDown
    pure none

/-- A call that was made in a session. -/
structure Turn (ε : Type) where
  call : Call
  before : Session ε
  outcome : Except Failure (Option Provider)
  after : Session ε

def Call.turn (c : Call) (s : Session ε) : Turn ε where
  call := c
  before := s
  outcome := (outcomeOf c.effect s).1
  after := (outcomeOf c.effect s).2

/-- Calls are made one after the other, also where some of them fail. -/
def turns : List Call → Session ε → List (Turn ε)
  | [], _ => []
  | c :: rest, s => c.turn s :: turns rest (c.turn s).after

/-! ## The two states -/

/-- Nothing was installed, and spans are opened through no provider. -/
structure Bare (s : Session ε) : Prop where
  installed : s.installed = none
  provider : s.provider = none

/-- This provider was installed. Spans are opened through it, though it may be closed by now. -/
structure Provided (p : Provider) (s : Session ε) : Prop where
  installed : s.installed = some p
  provider : ∃ closed, s.provider = some { p with isClosed := closed }
  propagators : s.propagators = some Session.usualPropagators

/-! ## What a call may do -/

namespace Turn

/-- The call installs nothing, and changes neither provider nor propagators. Settings that are
turned on end so only if they cannot be built, and then the call fails. -/
def Idle (t : Turn ε) : Prop :=
  match t.call with
  | .configure env settings =>
    if settings.enabled then
      ∃ fault, Provider.build env settings = .error fault ∧
        t.outcome = .error (Failure.ofFault fault) ∧ t.after = under t.before env
    else
      t.outcome = .ok none ∧ t.after = (under t.before env).log [Session.disabledRecord]
  | .shutDown => t.outcome = .ok none ∧ t.after = t.before

/-- The low halves of trace identifiers up to `bound` are the share that a ratio stands for. -/
def IsShare (bound : Nat) : Ratio → Prop
  | .whole n => (n = 0 ∧ bound = 0) ∨ (n = 1 ∧ bound = 1 <<< 64)
  | .real x => ¬x < 0.0 ∧ ¬1.0 < x ∧ x.isNaN = false ∧ bound = roundScaled x (1 <<< 64)

/-- The call installs a provider with what its own settings ask for. -/
def Installs (p : Provider) (t : Turn ε) : Prop :=
  ∃ env settings, t.call = .configure env settings ∧ settings.enabled = true ∧
    Provider.build env settings = .ok p ∧
    p.exporter = settings.exporter ∧
    IsShare p.bound settings.ratio ∧
    Limits.StatedBy env settings.countLimit settings.lengthLimit p.limits ∧
    t.outcome = .ok (some p) ∧
    t.after =
      { under t.before env with
        provider := some p
        installed := some p
        propagators := some Session.usualPropagators }

/-- The call yields the provider that is there, whatever its own settings are. To shut down closes
that provider and changes nothing else. -/
def Holds (p : Provider) (t : Turn ε) : Prop :=
  match t.call with
  | .configure env _ => t.outcome = .ok (some p) ∧ t.after = under t.before env
  | .shutDown => t.outcome = .ok none ∧ t.after = { t.before with provider := some p.close }

end Turn

section Steps

variable {s : Session ε} {p : Provider} {settings : TelemetrySettings}

theorem turn_eq {c : Call} {outcome : Except Failure (Option Provider)} {after : Session ε}
    (h : outcomeOf c.effect s = (outcome, after)) : c.turn s = ⟨c, s, outcome, after⟩ := by
  rw [Call.turn, h]

theorem outcomeOf_configure (env : Environment) (settings : TelemetrySettings) (s : Session ε) :
    outcomeOf (Call.configure env settings).effect s =
      outcomeOf (Session.provide settings) (under s env) := by
  unfold Call.effect
  rw [outcomeOf_bind_ok (outcomeOf_modify ..)]

theorem turn_of_installed (h : s.installed = some p) (env : Environment) :
    (Call.configure env settings).turn s =
      ⟨.configure env settings, s, .ok (some p), under s env⟩ := by
  have hinstalled : (under s env).installed = some p := h
  refine turn_eq ?_
  rw [outcomeOf_configure, Session.provide, outcomeOf_bind_ok (outcomeOf_get _), hinstalled]
  rfl

theorem turn_of_disabled (h : s.installed = none) (hoff : settings.enabled = false)
    (env : Environment) :
    (Call.configure env settings).turn s =
      ⟨.configure env settings, s, .ok none, (under s env).log [Session.disabledRecord]⟩ := by
  have hinstalled : (under s env).installed = none := h
  refine turn_eq ?_
  rw [outcomeOf_configure, Session.provide, outcomeOf_bind_ok (outcomeOf_get _), hinstalled, hoff]
  rfl

theorem turn_of_unbuilt {env : Environment} {fault : Fault} (h : s.installed = none)
    (hon : settings.enabled = true) (hbuild : Provider.build env settings = .error fault) :
    (Call.configure env settings).turn s =
      ⟨.configure env settings, s, .error (Failure.ofFault fault), under s env⟩ := by
  have hinstalled : (under s env).installed = none := h
  have hunder : Provider.build (under s env).environment settings = .error fault := hbuild
  refine turn_eq ?_
  rw [outcomeOf_configure, Session.provide, outcomeOf_bind_ok (outcomeOf_get _), hinstalled, hon,
    hunder]
  rfl

theorem turn_of_built {env : Environment} (h : s.installed = none) (hon : settings.enabled = true)
    (hbuild : Provider.build env settings = .ok p) :
    (Call.configure env settings).turn s =
      ⟨.configure env settings, s, .ok (some p), (under s env).install p⟩ := by
  have hinstalled : (under s env).installed = none := h
  have hunder : Provider.build (under s env).environment settings = .ok p := hbuild
  refine turn_eq ?_
  rw [outcomeOf_configure, Session.provide, outcomeOf_bind_ok (outcomeOf_get _), hinstalled, hon,
    hunder]
  rfl

theorem outcomeOf_shutDown (s : Session ε) :
    outcomeOf Call.shutDown.effect s =
      (.ok none, match s.installed with
        | some _ => { s with provider := s.provider.map (·.close) }
        | none => s) := by
  unfold Call.effect Session.shutDown
  rw [outcomeOf_bind_ok (outcomeOf_modify ..)]
  rfl

theorem shutDown_of_bare (h : s.installed = none) :
    Call.shutDown.turn s = ⟨.shutDown, s, .ok none, s⟩ := by
  refine turn_eq ?_
  rw [outcomeOf_shutDown]
  split
  · next hinstalled =>
      rw [h] at hinstalled
      cases hinstalled
  · rfl

theorem shutDown_of_installed (h : s.installed = some p) :
    Call.shutDown.turn s =
      ⟨.shutDown, s, .ok none, { s with provider := s.provider.map (·.close) }⟩ := by
  refine turn_eq ?_
  rw [outcomeOf_shutDown]
  split
  · rfl
  · next hinstalled =>
      rw [h] at hinstalled
      cases hinstalled

theorem isShare_of_boundOf {ratio : Ratio} {bound : Nat}
    (h : Provider.boundOf ratio = .ok bound) : Turn.IsShare bound ratio := by
  unfold Provider.boundOf at h
  cases ratio with
  | whole n =>
      dsimp only at h
      split at h
      · cases h
      · next hwithin =>
          cases h
          have hn : n = 0 ∨ n = 1 := by omega
          rcases hn with rfl | rfl
          · exact .inl ⟨rfl, rfl⟩
          · exact .inr ⟨rfl, rfl⟩
  | real x =>
      dsimp only at h
      split at h
      · cases h
      · next hwithin =>
          rw [not_or] at hwithin
          split at h
          · cases h
          · next hnan =>
              cases h
              exact ⟨hwithin.1, hwithin.2, eq_false_of_ne_true hnan, rfl⟩

/-- A provider that is built has what the settings ask for. -/
theorem build_eq_ok {env : Environment} (h : Provider.build env settings = .ok p) :
    p.exporter = settings.exporter ∧ Turn.IsShare p.bound settings.ratio ∧
      Limits.StatedBy env settings.countLimit settings.lengthLimit p.limits ∧
      p.isClosed = false := by
  unfold Provider.build at h
  cases hbound : Provider.boundOf settings.ratio with
  | error fault =>
      rw [hbound] at h
      cases h
  | ok bound =>
      rw [hbound] at h
      cases hlimits : Limits.resolve env settings.countLimit settings.lengthLimit with
      | error fault =>
          rw [hlimits] at h
          cases h
      | ok limits =>
          rw [hlimits] at h
          cases h
          exact ⟨rfl, isShare_of_boundOf hbound, Limits.resolve_eq_ok_iff.1 hlimits, rfl⟩

/-- With nothing installed a call is idle, or installs the provider of its own settings. -/
theorem Bare.turn (h : Bare s) (c : Call) :
    ((c.turn s).Idle ∧ Bare (c.turn s).after) ∨
      ∃ p, (c.turn s).Installs p ∧ Provided p (c.turn s).after := by
  cases c with
  | shutDown =>
      rw [shutDown_of_bare h.installed]
      exact .inl ⟨⟨rfl, rfl⟩, h⟩
  | configure env settings =>
      cases hon : settings.enabled with
      | false =>
          rw [turn_of_disabled h.installed hon]
          refine .inl ⟨?_, h.installed, h.provider⟩
          unfold Turn.Idle
          dsimp only
          rw [if_neg (ne_true_of_eq_false hon)]
          exact ⟨rfl, rfl⟩
      | true =>
          cases hbuild : Provider.build env settings with
          | error fault =>
              rw [turn_of_unbuilt h.installed hon hbuild]
              refine .inl ⟨?_, h.installed, h.provider⟩
              unfold Turn.Idle
              dsimp only
              rw [if_pos hon]
              exact ⟨fault, hbuild, rfl, rfl⟩
          | ok p =>
              -- No other provider was set, so this one is.
              have hset : (under s env).provider.or (some p) = some p := by
                rw [under, h.provider, Option.none_or]
              obtain ⟨hexporter, hbound, hlimits, hopen⟩ := build_eq_ok hbuild
              rw [turn_of_built h.installed hon hbuild, Session.install, Session.setProvider, hset]
              refine .inr ⟨p, ⟨env, settings, rfl, hon, hbuild, hexporter, hbound, hlimits, rfl,
                rfl⟩, rfl, ⟨false, ?_⟩, rfl⟩
              rw [← hopen]

/-- Once a provider is installed, a call leaves it so. -/
theorem Provided.turn (h : Provided p s) (c : Call) :
    (c.turn s).Holds p ∧ Provided p (c.turn s).after := by
  cases c with
  | configure env settings =>
      rw [turn_of_installed h.installed]
      exact ⟨⟨rfl, rfl⟩, h.installed, h.provider, h.propagators⟩
  | shutDown =>
      obtain ⟨closed, hprovider⟩ := h.provider
      have hclosed : s.provider.map (·.close) = some p.close := by
        rw [hprovider]
        rfl
      rw [shutDown_of_installed h.installed, hclosed]
      exact ⟨⟨rfl, rfl⟩, h.installed, ⟨true, rfl⟩, h.propagators⟩

end Steps

/-! ## Sequences of calls -/

theorem Provided.turns {p : Provider} (calls : List Call) {s : Session ε} (h : Provided p s) :
    ∀ t ∈ Provision.turns calls s, t.Holds p ∧ Provided p t.after := by
  induction calls generalizing s with
  | nil =>
      intro t ht
      cases ht
  | cons c rest ih =>
      intro t ht
      rcases List.mem_cons.1 ht with rfl | ht
      · exact h.turn c
      · exact ih (h.turn c).2 t ht

/-- However often a process configures telemetry and shuts it down, a provider is installed at most
once, by the first call whose settings are turned on and can be built, and stays. -/
theorem turns_install_at_most_once (calls : List Call) {s : Session ε} (h : Bare s) :
    (∀ t ∈ turns calls s, t.Idle ∧ Bare t.after) ∨
      ∃ idle t later p, turns calls s = idle ++ t :: later ∧
        (∀ t ∈ idle, t.Idle ∧ Bare t.after) ∧
        (t.Installs p ∧ Provided p t.after) ∧
        ∀ t ∈ later, t.Holds p ∧ Provided p t.after := by
  induction calls generalizing s with
  | nil =>
      refine .inl fun t ht => ?_
      cases ht
  | cons c rest ih =>
      rw [turns]
      rcases h.turn c with ⟨hidle, hbare⟩ | ⟨p, hinstalls, hprovided⟩
      · rcases ih hbare with hrest | ⟨idle, t, later, p, hturns, hidles, hfirst, hlater⟩
        · exact .inl (List.forall_mem_cons.2 ⟨⟨hidle, hbare⟩, hrest⟩)
        · refine .inr ⟨c.turn s :: idle, t, later, p, ?_,
            List.forall_mem_cons.2 ⟨⟨hidle, hbare⟩, hidles⟩, hfirst, hlater⟩
          rw [hturns, List.cons_append]
      · exact .inr ⟨[], c.turn s, turns rest (c.turn s).after, p, rfl, List.forall_mem_nil _,
          ⟨hinstalls, hprovided⟩, hprovided.turns rest⟩

def bareSession : Session Unit where
  package := { language := "3.12", toolkit := none }
  own := ()

def settingsOf (enabled : Bool) (ratio : Ratio) (exporter : Exporter) : TelemetrySettings where
  enabled
  exporter
  serviceName := "cli"
  serviceVersion := none
  ratio
  countLimit := none
  lengthLimit := none

/-- Settings that are turned off, some that cannot be built, the ones that are installed, and others
after a shut down. -/
def rollout : List Call :=
  [.configure [] (settingsOf false (.whole 1) .console), .shutDown,
   .configure [] (settingsOf true (.whole 2) .console),
   .configure [] (settingsOf true (.whole 1) .memory), .shutDown,
   .configure [] (settingsOf false (.whole 1) .console),
   .configure [("OTEL_SPAN_ATTRIBUTE_COUNT_LIMIT", "many")] (settingsOf true (.whole 0) .console)]

theorem rollout_installs_its_memory :
    ∃ idle t later p, turns rollout bareSession = idle ++ t :: later ∧ idle.length = 3 ∧
      (∀ t ∈ idle, t.Idle) ∧ t.Installs p ∧ p.exporter = .memory ∧ ∀ t ∈ later, t.Holds p := by
  have hstates : (turns rollout bareSession).map (·.after.installed.isSome) =
      [false, false, false, true, true, true, true] := rfl
  have hyield : ((turns rollout bareSession)[3]?.map (·.outcome.toOption.join.map (·.exporter))) =
      some (some .memory) := rfl
  rcases turns_install_at_most_once rollout (s := bareSession) ⟨rfl, rfl⟩ with
    hidle | ⟨idle, t, later, p, hturns, hidle, ⟨hinstalls, hprovided⟩, hlater⟩
  · have hnone : ∀ b ∈ (turns rollout bareSession).map (·.after.installed.isSome), b = false := by
      intro b hb
      obtain ⟨t, ht, rfl⟩ := List.mem_map.1 hb
      rw [(hidle t ht).2.installed]
      rfl
    rw [hstates] at hnone
    exact absurd (hnone true (by decide)) (by decide)
  · -- The idle calls are those before the first one after which something is installed.
    have hlength : idle.length = 3 := by
      have hnone : ∀ b ∈ idle.map (·.after.installed.isSome), (!b) = true := by
        intro b hb
        obtain ⟨t, ht, rfl⟩ := List.mem_map.1 hb
        rw [(hidle t ht).2.installed]
        rfl
      have hsome : t.after.installed.isSome = true := by
        rw [hprovided.installed]
        rfl
      rw [hturns, List.map_append, List.map_cons, hsome] at hstates
      have hcut := congrArg (List.takeWhile (!·)) hstates
      rw [List.takeWhile_append_of_pos hnone, List.takeWhile_cons_of_neg (by decide),
        List.append_nil] at hcut
      rw [← List.length_map (·.after.installed.isSome), hcut]
      rfl
    refine ⟨idle, t, later, p, hturns, hlength, fun t ht => (hidle t ht).1, hinstalls, ?_,
      fun t ht => (hlater t ht).1⟩
    obtain ⟨env, settings, -, -, -, -, -, -, houtcome, -⟩ := hinstalls
    rw [hturns, List.getElem?_append_right (Nat.le_of_eq hlength), hlength, Nat.sub_self,
      List.getElem?_cons_zero, Option.map_some, houtcome] at hyield
    exact Option.some.inj (Option.some.inj hyield)

end CommandTelemetry.Provision
