import CommandTelemetry.Proofs.FailedInvocation

/-!
# The exit code of an answer

An answer becomes an exit code in two places. A program that runs a command by itself renders what
the command answered. An invocation first makes a result of the answer, which goes through the
interceptor, and renders that result in the end. One would want both to yield the same code.

They do for every answer but a truth value. Rendered by itself a truth value says whether all went
well, so that true is success; on the way to a result it is taken for the number that it counts as,
so that true is one, the code of a general error. The two codes of a truth value are therefore
always different, and `invoke_agrees_iff_no_truth_value` says that nothing else makes them differ,
as long as the use that was recorded does not keep the span from ending.
-/

namespace CommandTelemetry

open Attribute Label

open Script (outcomeOf)

namespace Answer

/-- Commands may answer so: with nothing, with a result, or with a number, of which truth values are
a kind. -/
def IsAccepted : Answer → Prop
  | nothing | result _ => True
  | value v => v.asInt?.isSome = true

/-- The answer with the number in place of a truth value that counts as it. -/
def counted : Answer → Answer
  | value (.bool b) => value (.int (if b then 1 else 0))
  | a => a

/-- How a program ends that renders the answer itself: with an exit code, unless the answer cannot
be rendered. -/
def code (a : Answer) : Except Failure Int := a.render.outcome.mapError Failure.ofFault

theorem counted_of_no_truth_value {a : Answer} (h : ∀ b, a ≠ value (.bool b)) : a.counted = a := by
  cases a with
  | nothing | result r => rfl
  | value v =>
      cases v with
      | bool b => exact absurd rfl (h b)
      | _ => rfl

/-- As a number a truth value ends with the code of its opposite. -/
theorem code_counted_bool (b : Bool) :
    (value (.bool b)).counted.code = (value (.bool !b)).code := by
  cases b <;> rfl

theorem code_bool_ne (b : Bool) : (value (.bool !b)).code ≠ (value (.bool b)).code := by
  cases b <;> exact fun h => absurd (Except.ok.inj h) (by decide)

/-! ## Answers on their way -/

/-- What becomes of an accepted answer is rendered as the answer itself, if it is no truth value. -/
theorem ofCommand_of_isAccepted {a : Answer} (h : a.IsAccepted) :
    ∃ b, a.ofCommand = .ok b ∧ (∀ v, b ≠ value v) ∧ b.render = a.counted.render := by
  cases a with
  | nothing => exact ⟨nothing, rfl, fun v hv => (by cases hv), rfl⟩
  | result r => exact ⟨result r, rfl, fun v hv => (by cases hv), rfl⟩
  | value v =>
      have hnumber : v.asInt?.isSome = true := h
      refine ⟨result { exitCode := v }, if_pos hnumber, fun w hw => (by cases hw), ?_⟩
      cases v with
      | bool b => cases b <;> rfl
      | int n => rfl
      | exit c => rfl
      | _ => cases hnumber

end Answer

namespace Program

open CommandLine

variable {ε : Type}

/-- The command of an invocation answers; `s'` is the session that it leaves behind, in which the
context from before is the current one again. -/
def Answers (context : Option RunContext) (i : Invocation (Behaviour ε)) (s : Session ε)
    (a : Answer) (s' : Session ε) : Prop :=
  ∃ left, outcomeOf (callTarget i.target ⟨i.binding, context⟩) (sessionInside context i s) =
    (.ok a, left) ∧ s' = left.withCurrent s.current

theorem outcomeOf_action_of_answers {context : Option RunContext} {i : Invocation (Behaviour ε)}
    {s left : Session ε} {a b : Answer}
    (hcall : outcomeOf (callTarget i.target ⟨i.binding, context⟩) (sessionInside context i s) =
      (.ok a, left)) (hb : a.ofCommand = .ok b) :
    outcomeOf (action i context none) (sessionInside context i s) = (.ok b, left) := by
  unfold action
  rw [outcomeOf_bind_ok hcall, hb]
  rfl

/-- An accepted answer leaves the chain as a result that is rendered in the same way, unless the use
cannot be recorded. -/
theorem outcomeOf_chain_of_answers (domains : List Domain) (settings : Attribute.Settings)
    (usage : Session ε → Usage)
    {context : Option RunContext} {i : Invocation (Behaviour ε)} {s s' : Session ε} {a : Answer}
    (h : Answers context i s a s') (haccepted : a.IsAccepted) :
    ∃ r, (Answer.result r).render = a.counted.render ∧
      outcomeOf (Action.run [Interceptor.factory usage domains settings] none i.options
          (action i context)) (s.named (context.map (·.runId))) =
        match normalize settings (usage s') with
        | .ok used =>
          (.ok (.result r),
           (s'.log used.records).endSpan ((commandSpan context i s).setAttributes used.value))
        | .error g => (.error (Failure.ofFault g), s') := by
  obtain ⟨left, hcall, rfl⟩ := h
  obtain ⟨b, hb, hvalue, hrender⟩ := Answer.ofCommand_of_isAccepted haccepted
  obtain ⟨r, hstamp, hsame⟩ :=
    Interceptor.stamp_of_no_value hvalue (commandSpan context i s).context.traceText
  have hcurrent : (s.named (context.map (·.runId))).current = s.current := by
    cases context <;> rfl
  have hcommand : ∀ c, outcomeOf (action i context c)
      (Interceptor.inside i.options none (s.named (context.map (·.runId)))) = (.ok b, left) :=
    fun _ => outcomeOf_action_of_answers hcall hb
  have hending : Interceptor.ending (commandSpan context i s) (.ok b) = .ok (.result r) := by
    rw [Interceptor.ending, hstamp]
    rfl
  refine ⟨r, hsame.trans hrender, ?_⟩
  rw [Interceptor.outcomeOf_chain, Interceptor.outcomeOf_run, hcommand, hcurrent, ← commandSpan]
  simp only []
  have hsettled := Interceptor.settled_ok domains settings (left.withCurrent s.current) b
  cases hnormal : normalize settings (usage (left.withCurrent s.current)) with
  | ok used =>
      rw [Interceptor.outcomeOf_leave_ok domains _ _ (hsettled.symm ▸ hnormal), hending, hsettled]
      rfl
  | error g =>
      rw [Interceptor.outcomeOf_leave_error domains _ _ (hsettled.symm ▸ hnormal), hending,
        hsettled]
      rfl

theorem fst_outcomeOf_render (a : Answer) (s : Session ε) :
    (outcomeOf (render a) s).1 = a.code := by
  unfold render Answer.code
  rw [outcomeOf_bind_ok (outcomeOf_modify ..)]
  cases a.render.outcome <;> rfl

/-- How an invocation ends whose command has answered. -/
theorem outcome_invoke_of_answers (domains : List Domain) (settings : Attribute.Settings)
    (usage : Session ε → Usage) {grammar : Grammar (Behaviour ε)} {context : Option RunContext}
    {words : List String} {i : Invocation (Behaviour ε)} {s s' : Session ε} {a : Answer}
    (hparse : Invocation.ofWords grammar s.environment words = .ok i)
    (hanswers : Answers context i s a s') (haccepted : a.IsAccepted) :
    (outcomeOf (invoke grammar context [Interceptor.factory usage domains settings] words) s).1 =
      match normalize settings (usage s') with
      | .ok _ => a.counted.code
      | .error g => .ok (Failure.ofFault g).exitCode.number := by
  obtain ⟨r, hrender, hchain⟩ :=
    outcomeOf_chain_of_answers domains settings usage hanswers haccepted
  cases hnormal : normalize settings (usage s') with
  | ok used =>
      rw [hnormal] at hchain
      rw [outcomeOf_invoke_of_run hparse hchain, afterwards, fst_outcomeOf_render, Answer.code,
        hrender]
      rfl
  | error g =>
      rw [hnormal] at hchain
      obtain ⟨after, hrun, -⟩ := outcomeOf_invoke hparse hchain (Failure.isOrdinary_ofFault g)
      rw [hrun]

/-- Where the recorded use has a normal form, an invocation ends with the code that the answer of
its command is rendered with, exactly if that answer is no truth value; a truth value ends with the
code of its opposite. Where it has none, a fault of the recording decides. -/
theorem invoke_agrees_iff_no_truth_value (domains : List Domain) (settings : Attribute.Settings)
    (usage : Session ε → Usage) {grammar : Grammar (Behaviour ε)} {context : Option RunContext}
    {words : List String} {i : Invocation (Behaviour ε)} {s s' : Session ε} {a : Answer}
    (hparse : Invocation.ofWords grammar s.environment words = .ok i)
    (hanswers : Answers context i s a s') (haccepted : a.IsAccepted) :
    ∃ outcome,
      (outcomeOf (invoke grammar context [Interceptor.factory usage domains settings] words) s).1 =
        outcome ∧
      ((∀ e ∈ usage s', Recordable settings e) →
        (outcome = a.code ↔ ∀ b, a ≠ .value (.bool b)) ∧
        ∀ b, a = .value (.bool b) → outcome = (Answer.value (.bool !b)).code) ∧
      ∀ g, normalize settings (usage s') = .error g →
        outcome = .ok (Failure.ofFault g).exitCode.number := by
  refine ⟨_, outcome_invoke_of_answers domains settings usage hparse hanswers haccepted,
    fun hrecordable => ?_, fun g hfault => by rw [hfault]⟩
  obtain ⟨used, hused⟩ := normalize_ok_iff.2 hrecordable
  rw [hused]
  simp only []
  have htruth : ∀ b, a = .value (.bool b) → a.counted.code = (Answer.value (.bool !b)).code := by
    rintro b rfl
    exact Answer.code_counted_bool b
  refine ⟨⟨fun hagree b hb => ?_, fun hno => ?_⟩, htruth⟩
  · rw [htruth b hb, hb] at hagree
    exact Answer.code_bool_ne b hagree
  · rw [Answer.counted_of_no_truth_value hno]

/-- A command that records what it counted and answers so. -/
def checkCommand (a : Answer) : CommandLine.Command (Behaviour Unit) where
  name := "check"
  behaviour _ := do
    modify fun s => { s with usage := s.usage.set (.text "files") (.list [.int 3, .float 0.5]) }
    pure a

def checkGrammar (a : Answer) : Grammar (Behaviour Unit) where
  entries := [.command "check" [] (checkCommand a)]

theorem ofWords_check (a : Answer) (env : Environment) :
    Invocation.ofWords (checkGrammar a) env ["check"] =
      .ok ⟨["check"], .command (checkCommand a), []⟩ := by
  cbv

/-- A number of any size is its own exit code. -/
theorem checked_agrees :
    (outcomeOf (invoke (checkGrammar (.value (.int (-2 ^ 70)))) none [Interceptor.factory]
      ["check"]) Session.recording).1 = .ok (-2 ^ 70) := by
  have hparse := ofWords_check (.value (.int (-2 ^ 70))) Session.recording.environment
  obtain ⟨outcome, hrun, hagrees, -⟩ := @invoke_agrees_iff_no_truth_value Unit wellKnownDomains
    usualSettings (·.usage) _ none _ _ _ _ _ hparse ⟨_, rfl, rfl⟩ rfl
  have hrecordable : ∀ e ∈ [(Value.text "files", Value.list [.int 3, .float 0.5])],
      Recordable usualSettings e := by
    intro e he
    obtain rfl := List.mem_singleton.1 he
    refine .inr ⟨_, rfl, .inr ⟨fun _ v hv => ?_, fun hmixes => (by cases hmixes)⟩⟩
    simp only [Value.present, List.filter] at hv
    rcases List.mem_cons.1 hv with rfl | hv
    · exact ⟨_, rfl⟩
    · obtain rfl := List.mem_singleton.1 hv
      exact ⟨_, rfl⟩
  rw [hrun, (hagrees hrecordable).1.2 fun b hb => by cases hb]
  rfl

/-- A command that answers with true is a success by itself and fails as an invocation. -/
theorem affirmed_check_disagrees :
    (outcomeOf (invoke (checkGrammar (.value (.bool true))) none usualChain ["check"])
        Session.recording).1 = .ok ExitCode.generalError.number ∧
      (Answer.value (.bool true)).code = .ok ExitCode.success.number := by
  have hparse := ofWords_check (.value (.bool true)) Session.recording.environment
  have houtcome := @outcome_invoke_of_answers Unit wellKnownDomains usualSettings (·.usage) _ none
    _ _ _ _ _ hparse ⟨_, rfl, rfl⟩ rfl
  exact ⟨houtcome, rfl⟩

end Program

end CommandTelemetry
