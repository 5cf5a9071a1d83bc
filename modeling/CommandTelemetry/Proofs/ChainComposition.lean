import CommandTelemetry.Proofs.InterceptorExits
import CommandTelemetry.Script.Recorder

/-!
# Chains of chains

To run an action in a chain of two parts is to run it in the second part, as an action that runs in
the first. This is an equation between effects: the same answer, the same failure and the same
session at the end, from wherever it starts, whatever the middleware does with what it wraps. It may
run that twice, and then the second part is run through twice.

The factories stand apart from this. They are called before the chain is entered, each of them once
and one after the other, and so they are also for the second part, which was made by the time the
first one begins. Where a factory does nothing but make its middleware, it makes no difference when
it is called, and the second part may be made wherever it is run.

A middleware that runs what it wraps exactly once has a way in and a way out, and the way out may
depend on what was found on the way in. A chain of these goes in in order, which leaves the ways out
on a stack, and takes them from the stack once the action has ended, whether or not it failed.
-/

namespace CommandTelemetry

open Trace

open Script (outcomeOf)

namespace Action

variable {σ : Type} {fs gs : List (Factory σ)} {ctx : Option Context} {options : CommandOptions}
  {action : Action σ}

/-! ## Two parts of a chain -/

theorem wrap_append (outer inner : List (Middleware σ)) (action : Action σ) :
    wrap (outer ++ inner) action = wrap outer (wrap inner action) := by
  induction outer with
  | nil => rfl
  | cons m rest ih => rw [List.cons_append, wrap, wrap, ih]

/-- Runs an action inside the middleware that the factories make for it, and leaves its answer as it
is. -/
def through (factories : List (Factory σ)) (ctx : Option Context) (options : CommandOptions)
    (action : Action σ) : Effect σ Answer := do
  let chain ← factories.mapM (· options)
  wrap chain action ctx

theorem run_eq_through :
    run fs ctx options action = resultOf <$> through fs ctx options action := by
  simp only [run, through, map_bind, bind_pure_comp]

theorem through_append :
    through (fs ++ gs) ctx options action = (do
      let outer ← fs.mapM (· options)
      let inner ← gs.mapM (· options)
      wrap outer (wrap inner action) ctx) := by
  simp only [through, List.mapM_append, bind_assoc, pure_bind, wrap_append]

/-- The factories do nothing but make their middleware. -/
def OnlyMake (options : CommandOptions) (fs : List (Factory σ)) : Prop :=
  ∀ f ∈ fs, ∃ m, f options = pure m

theorem OnlyMake.mapM (h : OnlyMake options fs) :
    ∃ chain : List (Middleware σ), fs.mapM (· options) = (pure chain : Effect σ _) := by
  induction fs with
  | nil => exact ⟨[], rfl⟩
  | cons f rest ih =>
      obtain ⟨⟨m, hm⟩, hrest⟩ := List.forall_mem_cons.1 h
      obtain ⟨chain, hchain⟩ := ih hrest
      exact ⟨m :: chain, by rw [List.mapM_cons, hm, pure_bind, hchain, pure_bind]⟩

theorem through_append_of_onlyMake (h : OnlyMake options gs) :
    through (fs ++ gs) ctx options action =
      through fs ctx options fun inner => through gs inner options action := by
  obtain ⟨chain, hchain⟩ := h.mapM
  rw [through_append]
  simp only [through, hchain, pure_bind]

/-! ## Factories -/

/-- Each factory is called once, in the state that the one before it has left. -/
inductive Made (options : CommandOptions) :
    List (Factory σ) → σ → List (Middleware σ) → σ → Prop
  | nothing (s : σ) : Made options [] s [] s
  | next {f : Factory σ} {fs : List (Factory σ)} {m : Middleware σ} {chain : List (Middleware σ)}
      {s s' made : σ} : outcomeOf (f options) s = (.ok m, s') → Made options fs s' chain made →
      Made options (f :: fs) s (m :: chain) made

/-- A factory fails, and those behind it are not called. -/
inductive Unmade (options : CommandOptions) : List (Factory σ) → σ → Failure → σ → Prop
  | fails {f : Factory σ} {fs : List (Factory σ)} {failure : Failure} {s s' : σ} :
      outcomeOf (f options) s = (.error failure, s') → Unmade options (f :: fs) s failure s'
  | next {f : Factory σ} {fs : List (Factory σ)} {m : Middleware σ} {failure : Failure}
      {s s' left : σ} : outcomeOf (f options) s = (.ok m, s') →
      Unmade options fs s' failure left → Unmade options (f :: fs) s failure left

theorem made_or_unmade (options : CommandOptions) (fs : List (Factory σ)) (s : σ) :
    (∃ chain made, Made options fs s chain made ∧
        outcomeOf (fs.mapM (· options)) s = (.ok chain, made)) ∨
      ∃ failure left, Unmade options fs s failure left ∧
        outcomeOf (fs.mapM (· options)) s = (.error failure, left) := by
  induction fs generalizing s with
  | nil => exact .inl ⟨[], s, .nothing s, rfl⟩
  | cons f rest ih =>
      rw [List.mapM_cons]
      rcases hf : outcomeOf (f options) s with ⟨m | m, s'⟩
      · refine .inr ⟨m, s', .fails hf, ?_⟩
        rw [outcomeOf_bind, hf]
      · rw [outcomeOf_bind_ok hf]
        rcases ih s' with ⟨chain, made, hmade, hrest⟩ | ⟨failure, left, hunmade, hrest⟩
        · refine .inl ⟨m :: chain, made, .next hf hmade, ?_⟩
          rw [outcomeOf_bind_ok hrest, outcomeOf_pure]
        · refine .inr ⟨failure, left, .next hf hunmade, ?_⟩
          rw [outcomeOf_bind, hrest]

/-! ## Ways in and ways out -/

/-- How a middleware ends, once what it wraps has ended. -/
abbrev WayOut (σ : Type) := Except Failure Answer → Effect σ Answer

/-- Where a middleware runs what it wraps, and what it does after it. -/
structure Entered (σ : Type) where
  ctx : Option Context
  state : σ
  leave : WayOut σ

abbrev WayIn (σ : Type) := Option Context → σ → Entered σ

/-- A middleware runs what it wraps exactly once, between its way in and its way out. -/
def Encloses (m : Middleware σ) (enter : WayIn σ) : Prop :=
  ∀ ctx next s,
    outcomeOf (m ctx next) s =
      let e := enter ctx s
      let r := outcomeOf (next e.ctx) e.state
      outcomeOf (e.leave r.1) r.2

/-- A place inside some middleware, with the ways out of it, the nearest one first. -/
structure Inside (σ : Type) where
  ctx : Option Context
  state : σ
  leaves : List (WayOut σ)

def Inside.enter (place : Inside σ) (enter : WayIn σ) : Inside σ :=
  let e := enter place.ctx place.state
  ⟨e.ctx, e.state, e.leave :: place.leaves⟩

/-- Takes the ways out, from the nearest one on, after an action has ended. -/
def Inside.leave (place : Inside σ) (r : Except Failure Answer × σ) : Except Failure Answer × σ :=
  place.leaves.foldl (fun r leave => outcomeOf (leave r.1) r.2) r

/-- A chain goes in in order, runs the action once, and comes out in the opposite order. -/
theorem outcomeOf_wrap_of_encloses {chain : List (Middleware σ)} {ways : List (WayIn σ)}
    (h : List.Forall₂ Encloses chain ways) (action : Action σ) (place : Inside σ) :
    place.leave (outcomeOf (wrap chain action place.ctx) place.state) =
      let bottom := ways.foldl Inside.enter place
      bottom.leave (outcomeOf (action bottom.ctx) bottom.state) := by
  induction h generalizing place with
  | nil => rfl
  | @cons m enter rest ways hm hrest ih =>
      have hstep : place.leave (outcomeOf (wrap (m :: rest) action place.ctx) place.state) =
          (place.enter enter).leave
            (outcomeOf (wrap rest action (place.enter enter).ctx) (place.enter enter).state) := by
        rw [wrap, hm]
        rfl
      rw [hstep, ih, List.foldl_cons]

/-- A chain of two parts is the first part around the second, once the factories of both have been
called; these are called once each and in order, before the chain is entered; and a chain of
middleware that runs what it wraps exactly once is gone through in order and left in the opposite
order, however the action ends. -/
theorem chains_compose (fs gs : List (Factory σ)) (ctx : Option Context) (options : CommandOptions)
    (action : Action σ) :
    run fs ctx options action = resultOf <$> through fs ctx options action ∧
      through (fs ++ gs) ctx options action = (do
        let outer ← fs.mapM (· options)
        let inner ← gs.mapM (· options)
        wrap outer (wrap inner action) ctx) ∧
      (OnlyMake options gs →
        through (fs ++ gs) ctx options action =
          through fs ctx options fun inner => through gs inner options action) ∧
      (∀ s,
        (∃ chain made, Made options fs s chain made ∧
          outcomeOf (through fs ctx options action) s = outcomeOf (wrap chain action ctx) made) ∨
        ∃ failure left, Unmade options fs s failure left ∧
          outcomeOf (through fs ctx options action) s = (.error failure, left)) ∧
      ∀ (chain : List (Middleware σ)) (ways : List (WayIn σ)) (s : σ),
        List.Forall₂ Encloses chain ways →
          outcomeOf (wrap chain action ctx) s =
            let bottom := ways.foldl Inside.enter ⟨ctx, s, []⟩
            bottom.leave (outcomeOf (action bottom.ctx) bottom.state) := by
  refine ⟨run_eq_through, through_append, through_append_of_onlyMake, fun s => ?_,
    fun chain ways s h => outcomeOf_wrap_of_encloses h action ⟨ctx, s, []⟩⟩
  rcases made_or_unmade options fs s with ⟨chain, made, hmade, hrun⟩ | ⟨f, left, hunmade, hrun⟩
  · exact .inl ⟨chain, made, hmade, outcomeOf_bind_ok hrun⟩
  · refine .inr ⟨f, left, hunmade, ?_⟩
    rw [through, outcomeOf_bind, hrun]

end Action

/-! ## Middleware that runs the rest once -/

/-- The interceptor goes in with a span and comes out by ending it. -/
theorem Interceptor.encloses {ε : Type} (usage : Session ε → Usage) (domains : List Domain)
    (settings : Attribute.Settings) (options : CommandOptions) :
    Action.Encloses (Interceptor.run usage domains settings options) fun ctx s =>
      { ctx := some (contextInside options ctx s)
        state := inside options ctx s
        leave := fun outcome left =>
          leave usage domains settings (spanOf options ctx s) outcome
            (left.withCurrent s.current) } :=
  fun ctx next s => outcomeOf_run usage domains settings options ctx next s

namespace Script

/-- The recorder runs the rest once: it neither leaves it out nor runs it one time more. -/
def Recorder.RunsOnce (r : Recorder) : Prop :=
  r.conduct ≠ .twice ∧ ∀ a, r.conduct ≠ .skip a

def Recorder.wayIn (r : Recorder) (options : CommandOptions) : Action.WayIn Stage := fun ctx s =>
  { ctx := match r.conduct with
      | .withhold => none
      | _ => ctx
    state := (outcomeOf (write (.entered r.name options.path options.isChild)) s).2
    leave := r.finish }

theorem Recorder.encloses {r : Recorder} (h : r.RunsOnce) (options : CommandOptions) :
    Action.Encloses (r.run options) (r.wayIn options) := by
  intro ctx next s
  have hwrite : outcomeOf (write (.entered r.name options.path options.isChild)) s =
      (.ok (), (outcomeOf (write (.entered r.name options.path options.isChild)) s).2) := rfl
  unfold Recorder.run Recorder.wayIn
  rw [outcomeOf_bind_ok hwrite]
  cases hconduct : r.conduct with
  | twice => exact absurd hconduct h.1
  | skip a => exact absurd hconduct (h.2 a)
  | pass | withhold | swallow _ | discard => exact outcomeOf_bind_ok (outcomeOf_attempt _ _)

def blankStage : Stage where
  package := { language := "3.12", toolkit := none }
  own := {}

/-- A deployment that notes that it was called, and fails. -/
def failingDeploy : Action Stage := fun _ => do
  write (.called "deploy" [])
  throw (Failure.single (Failure.Node.general "ValueError" "no index"))

def deployOptions : CommandOptions where
  path := "cmdtrace deploy"

def outerRecorder : Recorder := ⟨"outer", .pass⟩

def innerRecorder : Recorder := ⟨"inner", .withhold⟩

/-- Both recorders are entered before the deployment and left after it, the inner one first. -/
theorem failingDeploy_in_recorders :
    Action.through ([outerRecorder.factory] ++ [innerRecorder.factory]) none deployOptions
        failingDeploy =
      Action.through [outerRecorder.factory] none deployOptions
        (fun inner =>
          Action.through [innerRecorder.factory] inner deployOptions failingDeploy) ∧
      (outcomeOf (Action.wrap [outerRecorder.run deployOptions, innerRecorder.run deployOptions]
          failingDeploy none) blankStage).2.own.journal =
        [.entered "outer" "cmdtrace deploy" false, .entered "inner" "cmdtrace deploy" false,
          .called "deploy" [], .failed "inner" "ValueError", .failed "outer" "ValueError"] := by
  have hmake : Action.OnlyMake deployOptions [innerRecorder.factory] :=
    List.forall_mem_singleton.2 ⟨_, rfl⟩
  have hpass : outerRecorder.RunsOnce := ⟨Conduct.noConfusion, fun _ => Conduct.noConfusion⟩
  have hwithhold : innerRecorder.RunsOnce := ⟨Conduct.noConfusion, fun _ => Conduct.noConfusion⟩
  have hencloses : List.Forall₂ Action.Encloses
      [outerRecorder.run deployOptions, innerRecorder.run deployOptions]
      [outerRecorder.wayIn deployOptions, innerRecorder.wayIn deployOptions] :=
    .cons (Recorder.encloses hpass _) (.cons (Recorder.encloses hwithhold _) .nil)
  obtain ⟨-, -, hparts, -, hpassage⟩ :=
    Action.chains_compose [outerRecorder.factory] [innerRecorder.factory] none deployOptions
      failingDeploy
  refine ⟨hparts hmake, ?_⟩
  rw [hpassage _ _ blankStage hencloses]
  rfl

end Script

end CommandTelemetry
