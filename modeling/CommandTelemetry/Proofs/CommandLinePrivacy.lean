import CommandTelemetry.CommandLine.Invocation
import CommandTelemetry.Proofs.InterceptorExits

/-!
# What telemetry learns from a command line

A binding holds every word of a command line and whatever variables stood in for words, each with
its source and the name that it was found under. Of all this telemetry is told two things: for each
argument whether the command line gave it under a name, and how many words it gave by position. The
values, the names that were typed and what came from elsewhere make no difference.

The options of an invocation do hold the words that were given by position. So it takes two steps
from bindings to spans: bindings that are alike make options that agree up to these words, and the
interceptor does the same for such options.
-/

namespace CommandTelemetry

open Trace Label Attribute

open Script (outcomeOf)

namespace CommandLine

/-! ## From bindings to options -/

/-- The command line gave the argument under one of its names. -/
def Argument.GivenByName (a : Argument) : Prop :=
  ∃ t ∈ a.tokens, t.source = .commandLine ∧ t.keyword ≠ none

instance (a : Argument) : Decidable a.GivenByName :=
  inferInstanceAs (Decidable (∃ t ∈ a.tokens, t.source = .commandLine ∧ t.keyword ≠ none))

/-- A leaf that the command line may give under a name, and did. -/
def Argument.IsListed (a : Argument) : Prop :=
  a.parameter.hasParts = false ∧ a.parameter.isInjected = false ∧ a.parameter.names ≠ [] ∧
    (a.parameter.slot = .either ∨ a.parameter.slot = .named) ∧ a.GivenByName

instance (a : Argument) : Decidable a.IsListed :=
  inferInstanceAs (Decidable (_ ∧ _ ∧ _ ∧ _ ∧ _))

theorem Argument.isListed_iff {a : Argument} :
    a.IsListed ↔ a.parameter.isFlag = true ∧ a.GivenByName := by
  simp only [IsListed, Parameter.isFlag, Parameter.takesValues, Bool.and_eq_true,
    Bool.or_eq_true, Bool.not_eq_true', decide_eq_true_eq, List.isEmpty_eq_false_iff]
  constructor
  · rintro ⟨hparts, hinjected, hnames, hslot, hgiven⟩
    exact ⟨⟨⟨⟨hinjected, hparts⟩, hslot⟩, hnames⟩, hgiven⟩
  · rintro ⟨⟨⟨⟨hinjected, hparts⟩, hslot⟩, hnames⟩, hgiven⟩
    exact ⟨hparts, hinjected, hnames, hslot, hgiven⟩

/-- The parameters have the same names, stand in the same place, and get values from the command
line or not. -/
structure Parameter.Matches (p q : Parameter) : Prop where
  names : p.names = q.names
  slot : p.slot = q.slot
  isInjected : p.isInjected = q.isInjected
  hasParts : p.hasParts = q.hasParts

namespace Parameter.Matches

variable {p q : Parameter}

theorem isFlag_eq (h : p.Matches q) : p.isFlag = q.isFlag := by
  rw [isFlag, isFlag, takesValues, takesValues, h.names, h.slot, h.isInjected, h.hasParts]

theorem flagName_eq (h : p.Matches q) : p.flagName = q.flagName := by
  rw [flagName, flagName, h.names]

end Parameter.Matches

namespace Binding

/-- How many words of the command line were given by position. -/
def positionCount (b : Binding) : Nat :=
  (b.flatMap (·.tokens)).countP fun t => t.source = .commandLine ∧ t.keyword = none

/-- The same is declared, the same arguments were given by name, and as many words were given by
position. -/
structure Alike (b b' : Binding) : Prop where
  arguments : List.Forall₂ (fun a a' : Argument =>
    a.parameter.Matches a'.parameter ∧ (a.GivenByName ↔ a'.GivenByName)) b b'
  positions : b.positionCount = b'.positionCount

theorem not_isEmpty_givenNames (a : Argument) :
    (!a.givenNames.isEmpty) = decide a.GivenByName := by
  rw [Bool.eq_iff_iff, decide_eq_true_iff, Bool.not_eq_true', List.isEmpty_eq_false_iff_exists_mem]
  unfold Argument.givenNames Argument.GivenByName
  constructor
  · rintro ⟨name, hname⟩
    obtain ⟨t, ht, hget⟩ := List.mem_filterMap.1 hname
    unfold Token.name? at hget
    split at hget
    · next hsource => exact ⟨t, ht, hsource, by rw [hget]; exact Option.some_ne_none name⟩
    · cases hget
  · rintro ⟨t, ht, hsource, hkeyword⟩
    obtain ⟨name, hname⟩ := Option.ne_none_iff_exists'.1 hkeyword
    refine ⟨name, List.mem_filterMap.2 ⟨t, ht, ?_⟩⟩
    rw [Token.name?, if_pos hsource, hname]

theorem length_words (b : Binding) : b.words.length = b.positionCount := by
  unfold words positionCount
  induction b with
  | nil => rfl
  | cons a rest ih =>
      have hwords : a.words.length =
          a.tokens.countP fun t => t.source = .commandLine ∧ t.keyword = none := by
        unfold Argument.words
        induction a.tokens with
        | nil => rfl
        | cons t ts iht =>
            rw [List.filterMap_cons, List.countP_cons, ← iht, Token.word?]
            by_cases ht : t.source = .commandLine ∧ t.keyword = none
            · simp [ht]
            · simp [ht]
      rw [List.flatMap_cons, List.flatMap_cons, List.length_append, List.countP_append, hwords, ih]

theorem Alike.flags_eq {b b' : Binding} (h : b.Alike b') : b.flags = b'.flags := by
  have harguments := h.arguments
  clear h
  unfold flags
  induction harguments with
  | nil => rfl
  | cons ha _ ih =>
      obtain ⟨hparameter, hgiven⟩ := ha
      rw [List.filter_cons, List.filter_cons, hparameter.isFlag_eq]
      split
      · rw [List.map_cons, List.map_cons, ih, hparameter.flagName_eq, not_isEmpty_givenNames,
          not_isEmpty_givenNames, decide_eq_decide.2 hgiven]
      · exact ih

/-- The flags that changed are those of the listed arguments, in the order of declaration. -/
theorem changedNames_flags (b : Binding) :
    b.flags.changedNames =
      (b.filter fun a => decide a.IsListed).map (·.parameter.flagName) := by
  unfold flags FlagSet.changedNames
  induction b with
  | nil => rfl
  | cons a rest ih =>
      -- The flags are filtered twice, by declaration and by what was given.
      have hlisted : decide a.IsListed = (a.parameter.isFlag && decide a.GivenByName) := by
        rw [Bool.eq_iff_iff, decide_eq_true_iff, Argument.isListed_iff, Bool.and_eq_true,
          decide_eq_true_iff]
      rw [List.filter_cons, List.filter_cons, hlisted]
      cases hflag : a.parameter.isFlag with
      | false => exact ih
      | true =>
          rw [if_pos rfl, List.map_cons, List.filter_cons, Bool.true_and,
            not_isEmpty_givenNames]
          cases decide a.GivenByName with
          | false => exact ih
          | true =>
              rw [if_pos rfl, if_pos rfl, List.map_cons, List.map_cons, ih]

end Binding

/-- Command lines of one path whose bindings are alike make options that agree on everything but
the words themselves. -/
theorem Invocation.options_of_alike {α : Type} {i i' : Invocation α} (hpath : i.path = i'.path)
    (h : i.binding.Alike i'.binding) :
    i.options.path = i'.options.path ∧ i.options.flags = i'.options.flags ∧
      i.options.wordCount = i'.options.wordCount ∧ i.options.isChild = i'.options.isChild := by
  refine ⟨?_, ?_, ?_, rfl⟩
  · rw [options, options, hpath]
  · exact congrArg some h.flags_eq
  · simp only [options, CommandOptions.wordCount, List.length_map, Binding.length_words,
      h.positions]

end CommandLine

namespace Interceptor

variable {ε : Type}

/-! ## From options to spans -/

/-- The interceptor looks at the path, at the flags, at the number of words and at whether the
invocation is a child. -/
theorem run_congr (usage : Session ε → Usage) (domains : List Domain)
    (settings : Attribute.Settings) {options options' : CommandOptions}
    (hpath : options.path = options'.path) (hflags : options.flags = options'.flags)
    (hcount : options.wordCount = options'.wordCount)
    (hchild : options.isChild = options'.isChild) :
    run usage domains settings options = run usage domains settings options' := by
  have hdescribe : ∀ span, describe span options = describe span options' := by
    intro span
    rw [describe_eq, describe_eq, described, described, hflags, hcount]
  funext ctx next
  unfold run
  simp only [hdescribe, hpath, hchild]

theorem spanOf_attributes {options : CommandOptions} {ctx : Option Context} {s : Session ε}
    (h : (spanOf options ctx s).isRecording = true) :
    (spanOf options ctx s).attributes =
      Span.storeAll (spanOf options ctx s).limits []
        (s.startAttributes (s.contextOr ctx) ++ described options) := by
  obtain ⟨attrs, hattrs⟩ := spanOf_eq options ctx s
  have hlimits : (spanOf options ctx s).limits = (start options ctx s).1.limits := by rw [hattrs]
  have hopened := isRecording_start h
  have hstart : (start options ctx s).1.attributes =
      Span.storeAll (start options ctx s).1.limits [] (s.startAttributes (s.contextOr ctx)) := by
    unfold start Session.startSpan at hopened ⊢
    cases hp : s.provider.filter (!·.isDisabled) with
    | none =>
        rw [hp] at hopened
        cases hopened
    | some p =>
        rw [hp] at hopened
        exact Span.attributes_setAttributes hopened
  rw [spanOf, describe_eq] at h ⊢
  rw [Span.attributes_setAttributes h, hstart, Span.storeAll_append, ← describe_eq, ← spanOf,
    hlimits]

/-- Where there is room for all that is written at the start, the flags that changed are there. -/
theorem lookup_cmdFlags {options : CommandOptions} {flags : FlagSet} {ctx : Option Context}
    {s : Session ε} (hflags : options.flags = some flags)
    (hrecording : (spanOf options ctx s).isRecording = true)
    (hroom : Span.Room (spanOf options ctx s).limits
      ((s.startAttributes (s.contextOr ctx) ++ described options).map Prod.fst)) :
    (spanOf options ctx s).attributes.lookup AttributeName.cmdFlags.key =
      some (Span.kept (spanOf options ctx s).limits (.list (flags.changedNames.map .text))) := by
  have hdescribed : (described options).reverse.lookup AttributeName.cmdFlags.key =
      some (.list (flags.changedNames.map .text)) := by
    rw [described, hflags]
    rfl
  have htaken : ∀ w ∈ s.startAttributes (s.contextOr ctx) ++ described options,
      w.1 = AttributeName.cmdFlags.key → isRefused w.2 = false := fun w hw _ =>
    (List.mem_append.1 hw).elim isRefused_startAttributes isRefused_described
  rw [spanOf_attributes hrecording, Span.lookup_storeAll_nil (by decide) htaken hroom,
    List.reverse_append, List.lookup_append, hdescribed]
  rfl

end Interceptor

namespace CommandLine

/-- The flags of a command line that are told to telemetry. -/
def Binding.listedNames (b : Binding) : List String :=
  (b.filter fun a => decide a.IsListed).map (·.parameter.flagName)

/-- Command lines of one path whose bindings are alike look the same to telemetry: one path, equal
flags, as many words, and the same session after the same action. What is told of the flags are the
names of the listed arguments. -/
theorem telemetry_eq_of_alike {α : Type} {i i' : Invocation α} (hpath : i.path = i'.path)
    (halike : i.binding.Alike i'.binding) :
    (i.options.path = i'.options.path ∧ i.options.flags = i'.options.flags ∧
      i.options.words.length = i'.options.words.length) ∧
    (∀ {ε : Type} (usage : Session ε → Usage) (domains : List Domain)
      (settings : Attribute.Settings) (ctx : Option Context) (next : Action (Session ε))
      (s : Session ε),
      outcomeOf (Interceptor.run usage domains settings i.options ctx next) s =
        outcomeOf (Interceptor.run usage domains settings i'.options ctx next) s) ∧
    (∀ span : Span, Interceptor.describe span i.options = span.setAttributes
      [(AttributeName.cmdFlags.key, .list (i.binding.listedNames.map .text)),
       (AttributeName.cmdArgsCount.key, .int i.binding.positionCount)]) ∧
    ∀ {ε : Type} (ctx : Option Context) (s : Session ε),
      let span := Interceptor.spanOf i.options ctx s
      span.isRecording = true →
      Span.Room span.limits ((s.startAttributes (s.contextOr ctx) ++
        Interceptor.described i.options).map Prod.fst) →
      span.attributes.lookup AttributeName.cmdFlags.key =
        some (Span.kept span.limits (.list (i.binding.listedNames.map .text))) := by
  obtain ⟨hsame, hflags, hcount, hchild⟩ := Invocation.options_of_alike hpath halike
  have hlisted : i.options.flags = some i.binding.flags := rfl
  have hnames : i.binding.flags.changedNames = i.binding.listedNames :=
    Binding.changedNames_flags i.binding
  have hpositions : i.options.wordCount = i.binding.positionCount := by
    rw [CommandOptions.wordCount, Invocation.options, List.length_map, Binding.length_words]
  refine ⟨⟨hsame, hflags, hcount⟩, ?_, ?_, ?_⟩
  · intro ε usage domains settings ctx next s
    rw [Interceptor.run_congr usage domains settings hsame hflags hcount hchild]
  · intro span
    rw [Interceptor.describe_eq, Interceptor.described, hlisted, ← hnames, hpositions]
    rfl
  · intro ε ctx s span hrecording hroom
    rw [← hnames]
    exact Interceptor.lookup_cmdFlags hlisted hrecording hroom

/-- What a deployment may be given: where to, regions, whether to do anything, and a token. -/
def deployment (place : String) (regions : List (String × String)) (dryRun : String)
    (token : List Token) : Invocation Unit where
  path := ["deploy"]
  target := .command { name := "deploy", behaviour := () }
  binding :=
    [{ parameter := { label := "place", slot := .positional, isRequired := true }
       tokens := [.byPosition place] },
     { parameter :=
        { label := "regions", slot := .either, names := ["--region", "-r"], repeats := true }
       tokens := regions.map fun r => .byName r.1 r.2 },
     { parameter :=
        { label := "dry_run", slot := .named, names := ["--dry-run"], kind := .switch }
       tokens := [.byName dryRun ""] },
     { parameter :=
        { label := "token", slot := .named, names := ["--token"], variableName := some "TOKEN" }
       tokens := token }]

def refusedDeployment : Action (Session Unit) :=
  fun _ => throw (Failure.single (Failure.Node.general "PermissionError" "not today"))

theorem deployments_look_alike :
    let one := deployment "prod" [("--region", "west")] "--dry-run" []
    let other := deployment "dev" [("--region", "east"), ("-r", "north")] "--no-dry-run"
      [.fromVariable "TOKEN" "s3cret"]
    outcomeOf (Interceptor.run (·.usage) wellKnownDomains usualSettings one.options none
        refusedDeployment) Session.recording =
      outcomeOf (Interceptor.run (·.usage) wellKnownDomains usualSettings other.options none
        refusedDeployment) Session.recording ∧
    one.binding.listedNames = ["region", "dry-run"] ∧
    (Interceptor.spanOf one.options none Session.recording).attributes.lookup
      AttributeName.cmdFlags.key = some (.list [.text "region", .text "dry-run"]) := by
  intro one other
  have halike : one.binding.Alike other.binding := by
    refine ⟨?_, rfl⟩
    refine .cons ⟨⟨rfl, rfl, rfl, rfl⟩, ?_⟩ <| .cons ⟨⟨rfl, rfl, rfl, rfl⟩, ?_⟩ <|
      .cons ⟨⟨rfl, rfl, rfl, rfl⟩, ?_⟩ <| .cons ⟨⟨rfl, rfl, rfl, rfl⟩, ?_⟩ .nil
    · decide
    · decide
    · decide
    · decide
  have hnames : one.binding.listedNames = ["region", "dry-run"] := by cbv
  have hpath : one.path = other.path := rfl
  obtain ⟨-, hrun, -, hspan⟩ := telemetry_eq_of_alike hpath halike
  refine ⟨hrun (·.usage) wellKnownDomains usualSettings none refusedDeployment Session.recording,
    hnames, ?_⟩
  rw [hnames] at hspan
  refine hspan none Session.recording (by cbv) (Span.room_of_length_le ?_)
  rintro _ ⟨⟩
  decide

end CommandLine

end CommandTelemetry
