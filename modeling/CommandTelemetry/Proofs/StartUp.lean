import CommandTelemetry.Proofs.Provisioning
import CommandTelemetry.Proofs.SpanLimits

/-!
# Start-up under limits

The two general limits are read twice. Settings read them leniently, and what does not read as an
integer counts as no limit. A provider is then built from these settings, but it looks at the same
variables again and reads them strictly. So a text that settings pass over with a warning may still
keep telemetry from starting.

Which texts do is settled here. Both readers pass over a blank text, and otherwise they see the same
integer or both see none, so one question is left for each variable: from which integer on it is
admitted. The number of attributes may not be negative, not even minus one, since its variable is
looked at although settings have a value. The length of texts is taken from settings where they have
it, and minus one stands for no limit there.
-/

namespace CommandTelemetry

open Text Numeral Trace

/-! ## What the strict reader takes -/

namespace Environment

variable {env : Environment} {name : String} {n least : Int}

/-- The variable of a limit is unset or blank, or holds an integer from `least` on. -/
def AdmitsLimit (env : Environment) (name : String) (least : Int) : Prop :=
  env.text? name = none ∨ ∃ n, env.HoldsInteger name n ∧ least ≤ n

theorem HoldsInteger.unique {m : Int} (hn : env.HoldsInteger name n)
    (hm : env.HoldsInteger name m) : n = m :=
  Option.some.inj ((integer?_eq_some_iff.2 hn).symm.trans (integer?_eq_some_iff.2 hm))

theorem HoldsInteger.text?_ne_none (h : env.HoldsInteger name n) : env.text? name ≠ none := by
  intro htext
  have hread := integer?_eq_some_iff.2 h
  rw [integer?, htext] at hread
  cases hread

theorem HoldsInteger.admitsLimit_iff (h : env.HoldsInteger name n) :
    env.AdmitsLimit name least ↔ least ≤ n := by
  constructor
  · rintro (htext | ⟨m, hm, hle⟩)
    · exact absurd htext h.text?_ne_none
    · rwa [h.unique hm]
  · exact fun hle => .inr ⟨n, h, hle⟩

theorem admitsLimit_iff_of_integer?_eq_none (h : (env.integer? name).value = none) :
    env.AdmitsLimit name least ↔ env.text? name = none := by
  refine or_iff_left ?_
  rintro ⟨n, hn, -⟩
  rw [← integer?_eq_some_iff, h] at hn
  cases hn

theorem saysLimit_of_text?_eq_none (h : env.text? name = none) : env.SaysLimit name none none := by
  rcases text?_eq_none_iff_unset_or_blank.1 h with hunset | ⟨raw, hraw, hblank⟩
  · exact .unset hunset
  · exact .blank hraw hblank

theorem HoldsInteger.saysLimit {unset : Option Nat} (h : env.HoldsInteger name n) (hn : 0 ≤ n) :
    env.SaysLimit name unset (some n.toNat) := by
  refine .natural ?_
  rwa [Int.toNat_of_nonneg hn]

/-- From nought on, a variable is admitted exactly where it says something as a limit. -/
theorem admitsLimit_zero_iff : env.AdmitsLimit name 0 ↔ ∃ limit, env.SaysLimit name none limit := by
  constructor
  · rintro (htext | ⟨n, hn, hle⟩)
    · exact ⟨none, saysLimit_of_text?_eq_none htext⟩
    · exact ⟨_, hn.saysLimit hle⟩
  · rintro ⟨limit, hunset | ⟨hraw, hblank⟩ | hn⟩
    · exact .inl (text?_eq_none_iff_unset_or_blank.2 (.inl hunset))
    · exact .inl (text?_eq_none_iff_unset_or_blank.2 (.inr ⟨_, hraw, hblank⟩))
    · exact .inr ⟨_, hn, Int.natCast_nonneg _⟩

end Environment

namespace Trace.Limits

open Environment

variable {env : Environment} {name : String} {n : Int}

/-- A variable that does not say a limit is refused by its name. -/
theorem ofVariable_of_not_admitsLimit (h : ¬env.AdmitsLimit name 0) :
    ∃ shown, ofVariable env name none = .error (.badLimit name shown) := by
  rw [admitsLimit_zero_iff] at h
  obtain ⟨raw, hraw, hset⟩ : ∃ raw, env.get? name = some raw ∧ strip raw ≠ "" := by
    cases hget : env.get? name with
    | none => exact absurd ⟨none, .unset hget⟩ h
    | some raw => exact ⟨raw, rfl, fun hblank => h ⟨none, .blank hget hblank⟩⟩
  rw [ofVariable_of_set hraw hset]
  cases hread : readInteger (strip raw) with
  | tooLong digits => exact ⟨_, rfl⟩
  | malformed => exact ⟨_, rfl⟩
  | integer n =>
      rcases Int.lt_or_le n 0 with hneg | hnonneg
      · exact ⟨_, natural_of_neg hneg⟩
      · exact absurd ⟨_, HoldsInteger.saysLimit ⟨raw, hraw, hread⟩ hnonneg⟩ h

/-! ## Limits of settings that were read from the same environment -/

/-- The variables of limits that settings do not know of. -/
def otherVariables : List String :=
  [spanCount, spanLength] ++ eventAndLinkCounts ++ eventAndLinkAttributes

/-- How many attributes a span holds under the general limit. -/
def countBy (env : Environment) : Nat :=
  ((env.integer? generalCount).value.map Int.toNat).getD usualCount

/-- How long a text may be under the general limit. A negative one stands for none. -/
def lengthBy (env : Environment) : Option Nat :=
  ((env.integer? generalLength).value.filter (0 ≤ ·)).map Int.toNat

/-- No limit is stated but the two general ones. -/
structure OnlyGeneral (env : Environment) : Prop where
  spanCount : env.get? spanCount = none
  spanLength : env.get? spanLength = none
  counts : ∀ name ∈ eventAndLinkCounts, env.get? name = none
  attributes : ∀ name ∈ eventAndLinkAttributes, env.get? name = none

theorem onlyGeneral_of_unset (h : ∀ name ∈ otherVariables, env.get? name = none) :
    OnlyGeneral env := by
  simp only [otherVariables, List.forall_mem_append, List.forall_mem_cons] at h
  obtain ⟨⟨⟨hcount, hlength, -⟩, hcounts⟩, hattributes⟩ := h
  exact ⟨hcount, hlength, hcounts, hattributes⟩

theorem countOf_of_admitsLimit (hspan : env.get? spanCount = none)
    (h : env.AdmitsLimit generalCount 0) :
    ∃ general, env.SaysLimit generalCount none general ∧
      Says env spanCount (some (general.getD 128)) (env.integer? generalCount).value
        (some (countBy env)) := by
  unfold countBy
  cases hvalue : (env.integer? generalCount).value with
  | none =>
      have htext := (admitsLimit_iff_of_integer?_eq_none hvalue).1 h
      exact ⟨none, saysLimit_of_text?_eq_none htext, .unset hspan⟩
  | some n =>
      have hinteger := integer?_eq_some_iff.1 hvalue
      have hn := hinteger.admitsLimit_iff.1 h
      refine ⟨some n.toNat, hinteger.saysLimit hn, ?_⟩
      have hgiven := IsGiven.natural n.toNat
      rwa [Int.toNat_of_nonneg hn] at hgiven

theorem lengthOf_of_admitsLimit (h : env.AdmitsLimit generalLength (-1)) :
    Says env generalLength none (env.integer? generalLength).value (lengthBy env) := by
  unfold lengthBy
  cases hvalue : (env.integer? generalLength).value with
  | none => exact saysLimit_of_text?_eq_none ((admitsLimit_iff_of_integer?_eq_none hvalue).1 h)
  | some n =>
      have hn := (integer?_eq_some_iff.1 hvalue).admitsLimit_iff.1 h
      rcases Int.lt_or_le n 0 with hneg | hnonneg
      · -- Minus one is the only negative integer that is admitted.
        have hn : n = -1 := by omega
        rw [hn]
        exact .unlimited
      · have hfilter : (some n).filter (0 ≤ ·) = some n := by simp [hnonneg]
        have hgiven := IsGiven.natural n.toNat
        rw [Int.toNat_of_nonneg hnonneg] at hgiven
        rwa [hfilter]

theorem lengthOf_of_not_admitsLimit (h : ¬env.AdmitsLimit generalLength (-1)) :
    ∃ shown,
      lengthOf env (env.integer? generalLength).value = .error (.badLimit generalLength shown) := by
  cases hvalue : (env.integer? generalLength).value with
  | none =>
      rw [admitsLimit_iff_of_integer?_eq_none hvalue,
        ← admitsLimit_iff_of_integer?_eq_none hvalue] at h
      exact ofVariable_of_not_admitsLimit h
  | some n =>
      rw [(integer?_eq_some_iff.1 hvalue).admitsLimit_iff, Int.not_le] at h
      refine ⟨toString n, ?_⟩
      rw [lengthOf, ofGiven, if_neg (by omega), natural_of_neg (by omega)]

theorem resolve_of_admitsLimit (hothers : OnlyGeneral env)
    (hcount : env.AdmitsLimit generalCount 0) (hlength : env.AdmitsLimit generalLength (-1)) :
    resolve env (env.integer? generalCount).value (env.integer? generalLength).value =
      .ok ⟨some (countBy env), lengthBy env⟩ := by
  refine resolve_eq_ok_iff.2 ⟨countOf_of_admitsLimit hothers.spanCount hcount,
    ⟨_, lengthOf_of_admitsLimit hlength, .unset hothers.spanLength⟩, ?_⟩
  exact List.forall_mem_append.2 ⟨fun name h => ⟨none, .unset (hothers.counts name h)⟩,
    fun name h => ⟨none, .unset (hothers.attributes name h)⟩⟩

theorem resolve_of_refused_count {count length : Option Int} (hothers : OnlyGeneral env)
    (hcount : ¬env.AdmitsLimit generalCount 0) :
    ∃ shown, resolve env count length = .error (.badLimit generalCount shown) := by
  obtain ⟨shown, hgeneral⟩ := ofVariable_of_not_admitsLimit hcount
  refine ⟨shown, ?_⟩
  rw [resolve, check_of_unset hothers.counts, hgeneral]
  rfl

theorem resolve_of_refused_length (hothers : OnlyGeneral env)
    (hcount : env.AdmitsLimit generalCount 0) (hlength : ¬env.AdmitsLimit generalLength (-1)) :
    ∃ shown, resolve env (env.integer? generalCount).value (env.integer? generalLength).value =
      .error (.badLimit generalLength shown) := by
  obtain ⟨general, hgeneral, hattributes⟩ := countOf_of_admitsLimit hothers.spanCount hcount
  obtain ⟨shown, hrefused⟩ := lengthOf_of_not_admitsLimit hlength
  refine ⟨shown, ?_⟩
  rw [resolve, check_of_unset hothers.counts, ofVariable_eq_ok_iff.2 hgeneral, hrefused,
    check_of_unset hothers.attributes]
  simp only [bind, Except.bind, countOf_eq_ok_iff.2 hattributes]

end Trace.Limits

namespace Trace.Provider

open TelemetrySettings

variable {env : Environment} (instrumentation : Instrumentation) (given : Overrides)

theorem boundOf_of_within {x : Float} (hzero : 0.0 ≤ x) (hone : x ≤ 1.0) :
    boundOf (.real x) = .ok (roundScaled x halves) := by
  rw [boundOf, if_neg (not_or.2 ⟨float_not_lt_of_le hzero, float_not_lt_of_le hone⟩),
    isNaN_of_le hone]
  rfl

/-- Nothing but limits can keep a provider from being built from settings that were resolved. -/
theorem build_resolved (env : Environment) :
    (build env (resolve env instrumentation given).value).map (·.limits) =
      Limits.resolve env (env.integer? Limits.generalCount).value
        (env.integer? Limits.generalLength).value := by
  obtain ⟨hzero, hone⟩ := ratioBy_within env
  rw [resolve_value, build, boundOf_of_within hzero hone]
  change Except.map _ (Except.bind (Limits.resolve env (env.integer? Limits.generalCount).value
    (env.integer? Limits.generalLength).value) _) = _
  cases Limits.resolve env (env.integer? Limits.generalCount).value
    (env.integer? Limits.generalLength).value <;> rfl

theorem build_of_limits {limits : Limits}
    (h : Limits.resolve env (env.integer? Limits.generalCount).value
      (env.integer? Limits.generalLength).value = .ok limits) :
    ∃ p, build env (resolve env instrumentation given).value = .ok p ∧ p.limits = limits := by
  have hbuild := build_resolved instrumentation given env
  rw [h] at hbuild
  cases hresult : build env (resolve env instrumentation given).value with
  | error fault =>
      rw [hresult] at hbuild
      cases hbuild
  | ok p =>
      rw [hresult] at hbuild
      exact ⟨p, rfl, Except.ok.inj hbuild⟩

theorem build_of_refused {fault : Fault}
    (h : Limits.resolve env (env.integer? Limits.generalCount).value
      (env.integer? Limits.generalLength).value = .error fault) :
    build env (resolve env instrumentation given).value = .error fault := by
  have hbuild := build_resolved instrumentation given env
  rw [h] at hbuild
  cases hresult : build env (resolve env instrumentation given).value with
  | error fault' =>
      rw [hresult] at hbuild
      rw [Except.error.inj hbuild]
  | ok p =>
      rw [hresult] at hbuild
      cases hbuild

end Trace.Provider

namespace Provision

open Environment TelemetrySettings

variable {ε : Type} {env : Environment}

/-- A call that configures telemetry fails only where it has a provider to build, and cannot. -/
theorem configure_fails_iff {settings : TelemetrySettings} (s : Session ε) :
    (∃ failure, ((Call.configure env settings).turn s).outcome = .error failure) ↔
      s.installed = none ∧ settings.enabled = true ∧
        ∃ fault, Provider.build env settings = .error fault := by
  cases hinstalled : s.installed with
  | some p =>
      rw [turn_of_installed hinstalled]
      exact iff_of_false (fun ⟨_, h⟩ => by cases h) (fun ⟨h, _⟩ => by cases h)
  | none =>
      cases hon : settings.enabled with
      | false =>
          rw [turn_of_disabled hinstalled hon]
          exact iff_of_false (fun ⟨_, h⟩ => by cases h) (fun ⟨_, h, _⟩ => by cases h)
      | true =>
          cases hbuild : Provider.build env settings with
          | error fault =>
              rw [turn_of_unbuilt hinstalled hon hbuild]
              exact iff_of_true ⟨_, rfl⟩ ⟨rfl, rfl, fault, rfl⟩
          | ok p =>
              rw [turn_of_built hinstalled hon hbuild]
              exact iff_of_false (fun ⟨_, h⟩ => by cases h) (fun ⟨_, _, _, h⟩ => by cases h)

structure Startable (env : Environment) : Prop where
  count : env.AdmitsLimit Limits.generalCount 0
  length : env.AdmitsLimit Limits.generalLength (-1)

/-- Telemetry starts under the settings of an environment exactly where both general limits are
admitted. A limit of which settings hold nothing since it does not read, other than a blank one, is
refused. -/
theorem starts_iff_limits_admitted (env : Environment) (instrumentation : Instrumentation)
    (given : Overrides)
    (hunset : ∀ name ∈ Limits.otherVariables, env.get? name = none) :
    (Startable env → ∃ p, Provider.build env (resolve env instrumentation given).value = .ok p ∧
      p.limits = ⟨some (Limits.countBy env), Limits.lengthBy env⟩) ∧
    (¬env.AdmitsLimit Limits.generalCount 0 → ∃ shown,
      Provider.build env (resolve env instrumentation given).value =
        .error (.badLimit Limits.generalCount shown)) ∧
    (env.AdmitsLimit Limits.generalCount 0 → ¬env.AdmitsLimit Limits.generalLength (-1) →
      ∃ shown, Provider.build env (resolve env instrumentation given).value =
        .error (.badLimit Limits.generalLength shown)) ∧
    ∀ s : Session ε,
      (∃ failure,
        ((Call.configure env (resolve env instrumentation given).value).turn s).outcome =
          .error failure) ↔
        s.installed = none ∧ (resolve env instrumentation given).value.enabled = true ∧
          ¬Startable env := by
  have hothers := Limits.onlyGeneral_of_unset hunset
  have hstart (h : Startable env) := Provider.build_of_limits instrumentation given
    (Limits.resolve_of_admitsLimit hothers h.count h.length)
  have hcount (h : ¬env.AdmitsLimit Limits.generalCount 0) :
      ∃ shown, Provider.build env (resolve env instrumentation given).value =
        .error (.badLimit Limits.generalCount shown) := by
    obtain ⟨shown, hrefused⟩ := Limits.resolve_of_refused_count hothers h
    exact ⟨shown, Provider.build_of_refused instrumentation given hrefused⟩
  have hlength (hadmitted : env.AdmitsLimit Limits.generalCount 0)
      (h : ¬env.AdmitsLimit Limits.generalLength (-1)) :
      ∃ shown, Provider.build env (resolve env instrumentation given).value =
        .error (.badLimit Limits.generalLength shown) := by
    obtain ⟨shown, hrefused⟩ := Limits.resolve_of_refused_length hothers hadmitted h
    exact ⟨shown, Provider.build_of_refused instrumentation given hrefused⟩
  refine ⟨hstart, hcount, hlength, fun s => ?_⟩
  rw [configure_fails_iff]
  refine and_congr_right fun _ => and_congr_right fun _ => ⟨?_, fun h => ?_⟩
  · rintro ⟨fault, hfault⟩ h
    obtain ⟨p, hp, -⟩ := hstart h
    rw [hfault] at hp
    cases hp
  · -- The limit that is looked at first is the one that is reported.
    by_cases hadmitted : env.AdmitsLimit Limits.generalCount 0
    · obtain ⟨shown, hrefused⟩ := hlength hadmitted fun hlength => h ⟨hadmitted, hlength⟩
      exact ⟨_, hrefused⟩
    · obtain ⟨shown, hrefused⟩ := hcount hadmitted
      exact ⟨_, hrefused⟩

/-- Limits that are written in an odd way, and one that is none. -/
def oddLimits : Environment :=
  [("OTEL_ATTRIBUTE_COUNT_LIMIT", " +1_6 "), ("OTEL_ATTRIBUTE_VALUE_LENGTH_LIMIT", "-1")]

/-- A blank limit, and one that says in a word that it is none. -/
def wordyLimits : Environment :=
  [("OTEL_ATTRIBUTE_COUNT_LIMIT", " "), ("OTEL_ATTRIBUTE_VALUE_LENGTH_LIMIT", "unset")]

theorem oddLimits_start :
    (∃ p, Provider.build oddLimits (resolve oddLimits usualInstrumentation).value = .ok p ∧
      p.limits = ⟨some 16, none⟩) ∧
    (∃ shown, Provider.build wordyLimits (resolve wordyLimits usualInstrumentation).value =
      .error (.badLimit "OTEL_ATTRIBUTE_VALUE_LENGTH_LIMIT" shown)) ∧
    ∃ failure,
      ((Call.configure wordyLimits (resolve wordyLimits usualInstrumentation).value).turn
        bareSession).outcome = .error failure := by
  obtain ⟨hstart, -⟩ :=
    @starts_iff_limits_admitted Unit oddLimits usualInstrumentation {} (by decide)
  obtain ⟨-, -, hlength, hturn⟩ :=
    @starts_iff_limits_admitted Unit wordyLimits usualInstrumentation {} (by decide)
  have hodd : Startable oddLimits :=
    ⟨.inr ⟨16, ⟨" +1_6 ", rfl, by decide⟩, by decide⟩,
      .inr ⟨-1, ⟨"-1", rfl, by decide⟩, by decide⟩⟩
  have hblank : wordyLimits.AdmitsLimit Limits.generalCount 0 := .inl (by decide)
  have hrefused : ¬wordyLimits.AdmitsLimit Limits.generalLength (-1) := by
    rw [admitsLimit_iff_of_integer?_eq_none rfl]
    decide
  exact ⟨hstart hodd, hlength hblank hrefused,
    (hturn bareSession).2 ⟨rfl, rfl, fun h => hrefused h.length⟩⟩

def manyAttributes : Environment := [("OTEL_ATTRIBUTE_COUNT_LIMIT", "many")]

/-- Settings pass over this text and hold no limit, and yet telemetry does not start. -/
theorem manyAttributes_refused :
    (∀ name ∈ Limits.otherVariables, manyAttributes.get? name = none) ∧
      (resolve manyAttributes usualInstrumentation).value.countLimit = none ∧
      Provider.build manyAttributes (resolve manyAttributes usualInstrumentation).value =
        .error (.badLimit "OTEL_ATTRIBUTE_COUNT_LIMIT" "many") ∧
      ((Call.configure manyAttributes (resolve manyAttributes usualInstrumentation).value).turn
        bareSession).outcome =
          .error (Failure.ofFault (.badLimit "OTEL_ATTRIBUTE_COUNT_LIMIT" "many")) :=
  ⟨by decide, rfl, rfl, rfl⟩

end Provision

end CommandTelemetry
