import CommandTelemetry.Proofs.FloatOrder
import CommandTelemetry.Setting.Telemetry

/-!
# Settings whatever the environment

Settings are resolved without any way to fail, in every environment. What the caller states is kept.
What the caller leaves open is read off the variables, where each field has variables and a reader
of its own, and a text that its reader cannot make out leaves that field at its default and all
others as they are.

That the fields do not meddle with one another is said with a list of the variables of each field:
environments that agree on these give the field the same value. The sampling ratio is the one field
whose reader admits values that make no sense, NaN among them, so its range is checked once more.

One field is older than the others. The version is read when the program is loaded, and by the time
that settings are resolved the environment may be another one. So there are two environments below:
the one in which the program started, which decides the version, and the one that holds now.
-/

namespace CommandTelemetry

open Text Numeral

namespace Environment

variable {env env' : Environment} {name : String}

/-! ## Readers and their variables -/

def HoldsInteger (env : Environment) (name : String) (n : Int) : Prop :=
  ∃ raw, env.get? name = some raw ∧ readInteger (strip raw) = .integer n

def HoldsNumber (env : Environment) (name : String) (x : Float) : Prop :=
  ∃ raw, env.get? name = some raw ∧ readNumber? (strip raw) = some x

/-- The variable holds this text, apart from blanks around it. A blank variable holds none. -/
def HoldsText (env : Environment) (name value : String) : Prop :=
  ∃ raw, env.get? name = some raw ∧ strip raw ≠ "" ∧ value = strip raw

/-- The variable holds one of the words, in any case. -/
def HoldsWord (env : Environment) (name : String) (words : List String) : Prop :=
  ∃ raw, env.get? name = some raw ∧ lower (strip raw) ∈ words

/-- What all readers but one have in common: a text that does not read is logged and has no
value. -/
def readBy {α : Type} (kind : String) (read : String → Option α) (env : Environment)
    (name : String) : Logged (Option α) :=
  match env.text? name with
  | none => pure none
  | some value =>
    match read value with
    | some a => pure (some a)
    | none => invalid kind name value

/-- A reader that makes nothing of the empty text need not know of blank variables. -/
theorem readBy_value {α : Type} {kind : String} {read : String → Option α} (h : read "" = none) :
    (readBy kind read env name).value = (env.get? name).bind fun raw => read (strip raw) := by
  rw [readBy, text?]
  cases env.get? name with
  | none => rfl
  | some raw =>
      simp only [Option.bind_some]
      by_cases hblank : strip raw = ""
      · rw [if_pos hblank, hblank, h]
        rfl
      · rw [if_neg hblank]
        dsimp only
        cases read (strip raw) <;> rfl

/-- The truth values in two words. -/
def strictWord? (value : String) : Option Bool :=
  if lower value = "true" then some true
  else if lower value = "false" then some false
  else none

/-- The value that a text chooses. -/
def chosen? {α : Type} (choices : List (Choice α)) (value : String) : Option α :=
  (choices.find? fun c => c.labels.any fun l => lower l == lower value).map (·.value)

theorem integer?_eq_readBy (env : Environment) (name : String) :
    env.integer? name = readBy "integer" (fun value => (readInteger value).toInt?) env name := by
  rw [integer?, readBy]
  cases env.text? name with
  | none => rfl
  | some value =>
      dsimp only
      cases (readInteger value).toInt? <;> rfl

theorem number?_eq_readBy (env : Environment) (name : String) :
    env.number? name = readBy "float" readNumber? env name := by
  rw [number?, readBy]
  cases env.text? name with
  | none => rfl
  | some value =>
      dsimp only
      cases readNumber? value <;> rfl

theorem strictBool?_eq_readBy (env : Environment) (name : String) :
    env.strictBool? name = readBy "boolean" strictWord? env name := by
  rw [strictBool?, readBy]
  cases env.text? name with
  | none => rfl
  | some value =>
      dsimp only [strictWord?]
      split
      · rfl
      · split <;> rfl

theorem choice?_eq_readBy {α : Type} (choices : List (Choice α)) (env : Environment)
    (name : String) : env.choice? name choices = readBy "value" (chosen? choices) env name := by
  rw [choice?, readBy]
  cases env.text? name with
  | none => rfl
  | some value =>
      dsimp only [chosen?]
      cases choices.find? fun c => c.labels.any fun l => lower l == lower value <;> rfl

theorem text?_eq_some_iff {value : String} :
    env.text? name = some value ↔ env.HoldsText name value := by
  rw [text?]
  unfold HoldsText
  cases env.get? name with
  | none => simp
  | some raw =>
      by_cases hblank : strip raw = ""
      · simp [hblank]
      · simp [hblank, eq_comm (b := strip raw)]

theorem integer?_eq_some_iff {n : Int} :
    (env.integer? name).value = some n ↔ env.HoldsInteger name n := by
  rw [integer?_eq_readBy, readBy_value (by decide), Option.bind_eq_some_iff]
  refine exists_congr fun raw => and_congr_right fun _ => ?_
  cases readInteger (strip raw) <;> simp [IntegerText.toInt?]

theorem number?_eq_some_iff {x : Float} :
    (env.number? name).value = some x ↔ env.HoldsNumber name x := by
  rw [number?_eq_readBy, readBy_value (by decide), Option.bind_eq_some_iff]
  rfl

theorem strictBool?_eq_true_iff :
    (env.strictBool? name).value = some true ↔ env.HoldsWord name ["true"] := by
  rw [strictBool?_eq_readBy, readBy_value (by decide), Option.bind_eq_some_iff]
  refine exists_congr fun raw => and_congr_right fun _ => ?_
  rw [strictWord?, List.mem_singleton]
  split
  · next hword => exact iff_of_true rfl hword
  · next hword =>
      refine iff_of_false (fun h => ?_) hword
      split at h <;> cases h

theorem bool?_value (env : Environment) (name : String) :
    (env.bool? name).value = (env.get? name).bind fun raw =>
      if lower (strip raw) ∈ trueWords then some true
      else if lower (strip raw) ∈ falseWords then some false else none := by
  rw [bool?]
  cases env.get? name with
  | none => rfl
  | some raw =>
      simp only [Option.bind_some]
      split
      · rfl
      · split <;> rfl

theorem bool?_eq_false_iff :
    (env.bool? name).value = some false ↔ env.HoldsWord name falseWords := by
  have hapart : ∀ word ∈ trueWords, word ∉ falseWords := by decide
  rw [bool?_value, Option.bind_eq_some_iff]
  refine exists_congr fun raw => and_congr_right fun _ => ?_
  split
  · next hword => exact iff_of_false (fun h => by cases h) (hapart _ hword)
  · split
    · next hword => exact iff_of_true rfl hword
    · next hword => exact iff_of_false (fun h => by cases h) hword

/-! ## Variables that a reader looks at -/

/-- The environments give these variables the same texts. -/
def AgreesOn (env env' : Environment) (names : List String) : Prop :=
  ∀ name ∈ names, env.get? name = env'.get? name

theorem agreesOn_cons {names : List String} (h : name ∉ names) (env : Environment)
    (text : String) : AgreesOn ((name, text) :: env) env names := by
  intro other hother
  have hne : (other == name) = false := beq_eq_false_iff_ne.2 fun heq => h (heq ▸ hother)
  rw [get?, List.lookup_cons, hne]
  rfl

theorem text?_congr (h : env.get? name = env'.get? name) : env.text? name = env'.text? name := by
  rw [text?, text?, h]

theorem readBy_congr {α : Type} (kind : String) (read : String → Option α)
    (h : env.get? name = env'.get? name) :
    readBy kind read env name = readBy kind read env' name := by
  rw [readBy, readBy, text?_congr h]

theorem strictBool?_congr (h : env.get? name = env'.get? name) :
    env.strictBool? name = env'.strictBool? name := by
  rw [strictBool?_eq_readBy, strictBool?_eq_readBy, readBy_congr _ _ h]

theorem bool?_congr (h : env.get? name = env'.get? name) : env.bool? name = env'.bool? name := by
  rw [bool?, bool?, h]

theorem number?_congr (h : env.get? name = env'.get? name) :
    env.number? name = env'.number? name := by
  rw [number?_eq_readBy, number?_eq_readBy, readBy_congr _ _ h]

theorem integer?_congr (h : env.get? name = env'.get? name) :
    env.integer? name = env'.integer? name := by
  rw [integer?_eq_readBy, integer?_eq_readBy, readBy_congr _ _ h]

theorem choice?_congr {α : Type} (choices : List (Choice α))
    (h : env.get? name = env'.get? name) :
    env.choice? name choices = env'.choice? name choices := by
  rw [choice?_eq_readBy, choice?_eq_readBy, readBy_congr _ _ h]

end Environment

namespace TelemetrySettings

open Environment

variable {env env' : Environment} {instrumentation : Instrumentation} {given : Overrides}

/-! ## The fields one by one -/

theorem enabledBy_eq_false_iff :
    (enabledBy env).value = false ↔
      env.HoldsWord "OTEL_SDK_DISABLED" ["true"] ∨
        env.HoldsWord "CMDTRACE_COLLECT_TELEMETRY" falseWords := by
  rw [← strictBool?_eq_true_iff, ← bool?_eq_false_iff]
  have hvalue : (enabledBy env).value =
      if (env.strictBool? "OTEL_SDK_DISABLED").value = some true then false
      else (env.bool? "CMDTRACE_COLLECT_TELEMETRY").value.getD true := by
    unfold enabledBy
    cases hstrict : (env.strictBool? "OTEL_SDK_DISABLED").value with
    | none =>
        simp only [bind, hstrict]
        rfl
    | some b =>
        cases b <;>
          · simp only [bind, hstrict]
            rfl
  rw [hvalue]
  split
  · next hstrict => exact iff_of_true rfl (.inl hstrict)
  · next hstrict =>
      rw [or_iff_right hstrict]
      cases (env.bool? "CMDTRACE_COLLECT_TELEMETRY").value with
      | none => decide
      | some b => cases b <;> decide

theorem chosen?_exporter_iff {value : String} {e : Exporter} :
    chosen? exporterChoices value = some e ↔ lower value = e.name := by
  have hlabels : ∀ e : Exporter, lower e.title = e.name ∧ lower e.name = e.name := by
    intro e
    cases e <;> decide
  rw [chosen?, exporterChoices, List.find?_map, Option.map_map, Option.map_eq_some_iff]
  generalize lower value = word
  constructor
  · rintro ⟨e, hfind, rfl⟩
    have hword := List.find?_some hfind
    simp only [Function.comp_apply, List.any_cons, List.any_nil, hlabels, Bool.or_false,
      Bool.or_self, beq_iff_eq] at hword
    exact hword.symm
  · rintro rfl
    refine ⟨e, ?_, rfl⟩
    cases e <;> decide

/-- The exporter is the one that is named, and there is none unless one is. -/
theorem exporterBy_eq_iff {e : Exporter} :
    (exporterBy env).value = e ↔
      env.HoldsWord "CMDTRACE_TRACES_EXPORTER" [e.name] ∨
        e = .none ∧ ∀ e' : Exporter, ¬env.HoldsWord "CMDTRACE_TRACES_EXPORTER" [e'.name] := by
  have hchoice : ∀ e : Exporter,
      (env.choice? "CMDTRACE_TRACES_EXPORTER" exporterChoices).value = some e ↔
        env.HoldsWord "CMDTRACE_TRACES_EXPORTER" [e.name] := by
    intro e
    rw [choice?_eq_readBy, readBy_value (by decide), Option.bind_eq_some_iff]
    refine exists_congr fun raw => and_congr_right fun _ => ?_
    rw [chosen?_exporter_iff, List.mem_singleton]
  simp only [← hchoice]
  have hvalue : (exporterBy env).value =
      (env.choice? "CMDTRACE_TRACES_EXPORTER" exporterChoices).value.getD .none := rfl
  rw [hvalue]
  cases (env.choice? "CMDTRACE_TRACES_EXPORTER" exporterChoices).value with
  | none => simp [eq_comm]
  | some e' => simp

theorem serviceNameBy_ne_empty (env : Environment) (stated : Option String) :
    serviceNameBy env stated ≠ "" := by
  have husual : (env.text? "OTEL_SERVICE_NAME").getD usualServiceName ≠ "" := by
    cases htext : env.text? "OTEL_SERVICE_NAME" with
    | none => decide
    | some text =>
        rw [text?] at htext
        split at htext
        · cases htext
        · split at htext
          · cases htext
          · next hblank =>
              cases htext
              exact hblank
  unfold serviceNameBy
  split
  · split
    · exact husual
    · next hname => exact hname
  · exact husual

theorem serviceNameBy_of_ne_empty {name : String} (h : name ≠ "") (env : Environment) :
    serviceNameBy env (some name) = name :=
  if_neg h

theorem ratioBy_value (env : Environment) :
    (ratioBy env).value =
      match (env.number? "OTEL_TRACES_SAMPLER_ARG").value with
      | none => 1.0
      | some x => if 0.0 ≤ x ∧ x ≤ 1.0 then x else 1.0 := by
  unfold ratioBy
  cases hnumber : (env.number? "OTEL_TRACES_SAMPLER_ARG").value with
  | none =>
      simp only [bind, hnumber]
      rfl
  | some x =>
      simp only [bind, hnumber]
      split <;> rfl

theorem ratioBy_within (env : Environment) :
    0.0 ≤ (ratioBy env).value ∧ (ratioBy env).value ≤ 1.0 := by
  have hone : (0.0 : Float) ≤ 1.0 ∧ (1.0 : Float) ≤ 1.0 := by decide
  rw [ratioBy_value]
  split
  · exact hone
  · split
    · next hwithin => exact hwithin
    · exact hone

theorem ratioBy_of_holdsNumber {x : Float} (h : env.HoldsNumber "OTEL_TRACES_SAMPLER_ARG" x)
    (hwithin : 0.0 ≤ x ∧ x ≤ 1.0) : (ratioBy env).value = x := by
  rw [ratioBy_value, number?_eq_some_iff.2 h]
  exact if_pos hwithin

theorem ratioBy_eq_one
    (h : ∀ x, env.HoldsNumber "OTEL_TRACES_SAMPLER_ARG" x → ¬(0.0 ≤ x ∧ x ≤ 1.0)) :
    (ratioBy env).value = 1.0 := by
  rw [ratioBy_value]
  split
  · rfl
  · next x hx => exact if_neg (h x (number?_eq_some_iff.1 hx))

theorem version_of_holdsText {installed : Option String} {v : String}
    (h : env.HoldsText "CMDTRACE_SERVICE_VERSION" v) :
    (Instrumentation.ofEnvironment env installed).version = some v := by
  rw [Instrumentation.ofEnvironment, text?_eq_some_iff.2 h]
  rfl

theorem version_of_unset {installed : Option String}
    (h : ∀ v, ¬env.HoldsText "CMDTRACE_SERVICE_VERSION" v) :
    (Instrumentation.ofEnvironment env installed).version = installed := by
  have hnone : env.text? "CMDTRACE_SERVICE_VERSION" = none :=
    Option.eq_none_iff_forall_ne_some.2 fun v hv => h v (text?_eq_some_iff.1 hv)
  rw [Instrumentation.ofEnvironment, hnone]
  rfl

theorem resolve_value (env : Environment) (instrumentation : Instrumentation)
    (given : Overrides) :
    (resolve env instrumentation given).value =
      { enabled := given.enabled.getD (enabledBy env).value
        exporter := given.exporter.getD (exporterBy env).value
        serviceName := serviceNameBy env given.serviceName
        serviceVersion := instrumentation.version
        ratio := .real (ratioBy env).value
        countLimit := (env.integer? "OTEL_ATTRIBUTE_COUNT_LIMIT").value
        lengthLimit := (env.integer? "OTEL_ATTRIBUTE_VALUE_LENGTH_LIMIT").value } := by
  unfold resolve
  cases given.enabled <;> cases given.exporter <;> rfl

/-- The settings that are resolved in `env` by a program that was started in `started`, with a
package of the version `installed`. -/
def settingsIn (installed : Option String) (given : Overrides) (started env : Environment) :
    TelemetrySettings :=
  (resolve env (Instrumentation.ofEnvironment started installed) given).value

/-- What settings are, as they are resolved from two environments, from the version of the package
and from what the caller states. -/
structure ResolvedFrom (started env : Environment) (installed : Option String) (given : Overrides)
    (s : TelemetrySettings) : Prop where
  enabled_given : ∀ b, given.enabled = some b → s.enabled = b
  enabled_read : given.enabled = none →
    (s.enabled = false ↔
      env.HoldsWord "OTEL_SDK_DISABLED" ["true"] ∨
        env.HoldsWord "CMDTRACE_COLLECT_TELEMETRY" falseWords)
  exporter_given : ∀ e, given.exporter = some e → s.exporter = e
  exporter_read : given.exporter = none → ∀ e,
    (s.exporter = e ↔
      env.HoldsWord "CMDTRACE_TRACES_EXPORTER" [e.name] ∨
        e = .none ∧ ∀ e' : Exporter, ¬env.HoldsWord "CMDTRACE_TRACES_EXPORTER" [e'.name])
  serviceName_given : ∀ name, given.serviceName = some name → name ≠ "" → s.serviceName = name
  serviceName_nonempty : s.serviceName ≠ ""
  serviceVersion_read : ∀ v, started.HoldsText "CMDTRACE_SERVICE_VERSION" v →
    s.serviceVersion = some v
  serviceVersion_installed : (∀ v, ¬started.HoldsText "CMDTRACE_SERVICE_VERSION" v) →
    s.serviceVersion = installed
  ratio_within : ∃ x, s.ratio = .real x ∧ 0.0 ≤ x ∧ x ≤ 1.0 ∧ x.isNaN = false
  ratio_read : ∀ x, env.HoldsNumber "OTEL_TRACES_SAMPLER_ARG" x → 0.0 ≤ x ∧ x ≤ 1.0 →
    s.ratio = .real x
  ratio_usual : (∀ x, env.HoldsNumber "OTEL_TRACES_SAMPLER_ARG" x → ¬(0.0 ≤ x ∧ x ≤ 1.0)) →
    s.ratio = .real 1.0
  countLimit : ∀ n, s.countLimit = some n ↔ env.HoldsInteger "OTEL_ATTRIBUTE_COUNT_LIMIT" n
  lengthLimit : ∀ n,
    s.lengthLimit = some n ↔ env.HoldsInteger "OTEL_ATTRIBUTE_VALUE_LENGTH_LIMIT" n

theorem settingsIn_resolvedFrom (started env : Environment) (installed : Option String)
    (given : Overrides) :
    ResolvedFrom started env installed given (settingsIn installed given started env) := by
  obtain ⟨hzero, hone⟩ := ratioBy_within env
  rw [settingsIn, resolve_value]
  exact
    { enabled_given := fun b h => by rw [h, Option.getD_some]
      enabled_read := fun h => by rw [h, Option.getD_none, enabledBy_eq_false_iff]
      exporter_given := fun e h => by rw [h, Option.getD_some]
      exporter_read := fun h e => by rw [h, Option.getD_none, exporterBy_eq_iff]
      serviceName_given := fun _ h hname => by
        rw [h]
        exact serviceNameBy_of_ne_empty hname env
      serviceName_nonempty := serviceNameBy_ne_empty env _
      serviceVersion_read := fun _ h => version_of_holdsText h
      serviceVersion_installed := fun h => version_of_unset h
      ratio_within := ⟨_, rfl, hzero, hone, isNaN_of_le hone⟩
      ratio_read := fun _ h hwithin => congrArg Ratio.real (ratioBy_of_holdsNumber h hwithin)
      ratio_usual := fun h => congrArg Ratio.real (ratioBy_eq_one h)
      countLimit := fun _ => integer?_eq_some_iff
      lengthLimit := fun _ => integer?_eq_some_iff }

/-! ## No field depends on variables of another one -/

inductive Field where
  | enabled
  | exporter
  | serviceName
  | serviceVersion
  | ratio
  | countLimit
  | lengthLimit
  deriving DecidableEq, Repr

namespace Field

def sources : Field → List String
  | enabled => ["OTEL_SDK_DISABLED", "CMDTRACE_COLLECT_TELEMETRY"]
  | exporter => ["CMDTRACE_TRACES_EXPORTER"]
  | serviceName => ["OTEL_SERVICE_NAME"]
  | serviceVersion => ["CMDTRACE_SERVICE_VERSION"]
  | ratio => ["OTEL_TRACES_SAMPLER_ARG"]
  | countLimit => ["OTEL_ATTRIBUTE_COUNT_LIMIT"]
  | lengthLimit => ["OTEL_ATTRIBUTE_VALUE_LENGTH_LIMIT"]

/-- The one of two environments in which the variables of a field are looked up. -/
def readIn (started env : Environment) : Field → Environment
  | serviceVersion => started
  | _ => env

/-- Two settings have the same value of a field. -/
def Same (s t : TelemetrySettings) : Field → Prop
  | enabled => s.enabled = t.enabled
  | exporter => s.exporter = t.exporter
  | serviceName => s.serviceName = t.serviceName
  | serviceVersion => s.serviceVersion = t.serviceVersion
  | ratio => s.ratio = t.ratio
  | countLimit => s.countLimit = t.countLimit
  | lengthLimit => s.lengthLimit = t.lengthLimit

theorem sources_apart {f g : Field} {name : String} (hf : name ∈ f.sources)
    (hg : name ∈ g.sources) : f = g := by
  have hapart : ∀ f g : Field, f = g ∨ ∀ name ∈ f.sources, name ∉ g.sources := by
    intro f g
    cases f <;> cases g <;> decide
  exact (hapart f g).resolve_right fun h => h name hf hg

end Field

/-- A field is decided by its own variables in the environment that it is read in. -/
theorem settingsIn_congr {f : Field} (installed : Option String) (given : Overrides)
    {started started' : Environment}
    (h : AgreesOn (f.readIn started env) (f.readIn started' env') f.sources) :
    f.Same (settingsIn installed given started env) (settingsIn installed given started' env') := by
  rw [settingsIn, settingsIn, resolve_value, resolve_value]
  cases f with
  | enabled =>
      have hstrict := strictBool?_congr (h "OTEL_SDK_DISABLED" (by decide))
      have hbool := bool?_congr (h "CMDTRACE_COLLECT_TELEMETRY" (by decide))
      change given.enabled.getD (enabledBy env).value = given.enabled.getD (enabledBy env').value
      simp only [Field.readIn] at hstrict hbool
      rw [enabledBy, enabledBy, hstrict, hbool]
  | exporter =>
      have hchoice := choice?_congr exporterChoices (h "CMDTRACE_TRACES_EXPORTER" (by decide))
      change given.exporter.getD (exporterBy env).value =
        given.exporter.getD (exporterBy env').value
      simp only [Field.readIn] at hchoice
      rw [exporterBy, exporterBy, hchoice]
  | serviceName =>
      have htext := text?_congr (h "OTEL_SERVICE_NAME" (by decide))
      change serviceNameBy env given.serviceName = serviceNameBy env' given.serviceName
      unfold serviceNameBy
      simp only [Field.readIn] at htext
      rw [htext]
  | serviceVersion =>
      have htext := text?_congr (h "CMDTRACE_SERVICE_VERSION" (by decide))
      change (started.text? _).orElse _ = (started'.text? _).orElse _
      simp only [Field.readIn] at htext
      rw [htext]
  | ratio =>
      have hnumber := number?_congr (h "OTEL_TRACES_SAMPLER_ARG" (by decide))
      change Ratio.real (ratioBy env).value = .real (ratioBy env').value
      simp only [Field.readIn] at hnumber
      rw [ratioBy, ratioBy, hnumber]
  | countLimit =>
      exact congrArg Logged.value (integer?_congr (h "OTEL_ATTRIBUTE_COUNT_LIMIT" (by decide)))
  | lengthLimit =>
      exact congrArg Logged.value
        (integer?_congr (h "OTEL_ATTRIBUTE_VALUE_LENGTH_LIMIT" (by decide)))

theorem agreesOn_set {f g : Field} {name : String} (hf : name ∈ f.sources) (hg : g ≠ f)
    (started env : Environment) (text : String) :
    AgreesOn (g.readIn ((name, text) :: started) ((name, text) :: env)) (g.readIn started env)
      g.sources := by
  have hnot : name ∉ g.sources := fun h => hg (Field.sources_apart h hf)
  cases g with
  | serviceVersion => exact agreesOn_cons hnot started text
  | _ => exact agreesOn_cons hnot env text

/-- Whatever the environments hold, settings are resolved, with every field as it should be, and
with no field that another one's variables have a part in. -/
theorem resolve_reads_fields_apart (started env : Environment) (installed : Option String)
    (given : Overrides) :
    ResolvedFrom started env installed given (settingsIn installed given started env) ∧
      (∀ (f : Field) (started' env' : Environment),
        AgreesOn (f.readIn started env) (f.readIn started' env') f.sources →
        f.Same (settingsIn installed given started env)
          (settingsIn installed given started' env')) ∧
      ∀ (f g : Field) (name text : String), name ∈ f.sources → g ≠ f →
        g.Same (settingsIn installed given ((name, text) :: started) ((name, text) :: env))
          (settingsIn installed given started env) :=
  ⟨settingsIn_resolvedFrom started env installed given,
    fun _ _ _ h => settingsIn_congr installed given h,
    fun _ _ _ text hf hg => settingsIn_congr installed given (agreesOn_set hf hg started env text)⟩

/-- An environment in which hardly a variable reads. -/
def garbled : Environment :=
  [("OTEL_SDK_DISABLED", " TRUE "), ("OTEL_TRACES_SAMPLER_ARG", "nan"),
   ("CMDTRACE_TRACES_EXPORTER", "console"), ("OTEL_SERVICE_NAME", " "),
   ("OTEL_ATTRIBUTE_COUNT_LIMIT", "many"), ("OTEL_ATTRIBUTE_VALUE_LENGTH_LIMIT", " +1_6 ")]

/-- The environment before that, which names a version. -/
def versioned : Environment := [("CMDTRACE_SERVICE_VERSION", " 2.0 ")]

theorem garbled_resolved :
    ∃ s, s = settingsIn (some "0.1.0") { exporter := some .none } versioned garbled ∧
      s.enabled = false ∧ s.exporter = .none ∧ s.ratio = .real 1.0 ∧ s.countLimit = none ∧
      s.lengthLimit = some 16 ∧ s.serviceVersion = some "2.0" ∧
      Field.ratio.Same s
        (settingsIn (some "0.1.0") { exporter := some .none } []
          [("OTEL_TRACES_SAMPLER_ARG", "nan")]) ∧
      Field.lengthLimit.Same
        (settingsIn (some "0.1.0") { exporter := some .none }
          (("OTEL_SERVICE_NAME", "") :: versioned) (("OTEL_SERVICE_NAME", "") :: garbled)) s := by
  obtain ⟨hfields, hagree, hset⟩ :=
    resolve_reads_fields_apart versioned garbled (some "0.1.0") { exporter := some .none }
  have hratio : ∀ x, garbled.HoldsNumber "OTEL_TRACES_SAMPLER_ARG" x → ¬(0.0 ≤ x ∧ x ≤ 1.0) := by
    rintro x ⟨raw, hraw, hx⟩
    cases hraw
    cases hx
    decide
  have hcount : (settingsIn (some "0.1.0") { exporter := some .none } versioned
      garbled).countLimit = none := by
    refine Option.eq_none_iff_forall_ne_some.2 fun n hn => ?_
    obtain ⟨raw, hraw, hn⟩ := (hfields.countLimit n).1 hn
    cases hraw
    cases hn
  have hsame : AgreesOn garbled [("OTEL_TRACES_SAMPLER_ARG", "nan")] Field.ratio.sources := by
    intro name hname
    rw [List.mem_singleton.1 hname]
    rfl
  exact ⟨_, rfl, (hfields.enabled_read rfl).2 (.inl ⟨" TRUE ", rfl, by decide⟩),
    hfields.exporter_given _ rfl, hfields.ratio_usual hratio, hcount,
    (hfields.lengthLimit 16).2 ⟨" +1_6 ", rfl, by decide⟩,
    hfields.serviceVersion_read "2.0" ⟨" 2.0 ", rfl, by decide, by decide⟩,
    hagree .ratio [] _ hsame,
    hset .serviceName .lengthLimit "OTEL_SERVICE_NAME" "" (by decide) (by decide)⟩

end TelemetrySettings

end CommandTelemetry
