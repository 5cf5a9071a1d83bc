import CommandTelemetry.Proofs.IntegerText
import CommandTelemetry.Proofs.ResolvedSettings
import CommandTelemetry.Trace.Limits

/-!
# Limits as they are stated

The limits of spans come from what settings give and from variables that are looked at once more.
Here they are said without the reader of these variables: a variable goes without saying where it is
unset, says that there is no limit where it is blank, and says a natural number otherwise, and what
settings give goes before it. The reader is then shown to yield a pair of limits exactly where that
pair is the stated one, so whoever knows the settings and the environment knows the limits.

The reader lowers the case of a text before it looks for an integer there, which the readers of
settings do not. That makes no difference to integers, and no text but the empty one is empty in
lower case.
-/

namespace CommandTelemetry

open Text Numeral

namespace Environment

variable {env : Environment} {name : String} {n : Int}

/-- What a variable says as a limit, where `unset` goes without saying. -/
inductive SaysLimit (env : Environment) (name : String) (unset : Option Nat) : Option Nat → Prop
  | unset (h : env.get? name = none) : SaysLimit env name unset unset
  | blank {raw : String} (h : env.get? name = some raw) (hblank : strip raw = "") :
      SaysLimit env name unset none
  | natural {n : Nat} (h : env.HoldsInteger name n) : SaysLimit env name unset (some n)

theorem text?_eq_none_iff_unset_or_blank :
    env.text? name = none ↔
      env.get? name = none ∨ ∃ raw, env.get? name = some raw ∧ strip raw = "" := by
  rw [text?]
  cases env.get? name with
  | none => simp
  | some raw => simp

end Environment

namespace Text

theorem lower_eq_empty_iff {s : String} : lower s = "" ↔ s = "" := by
  refine ⟨fun h => ?_, fun h => by rw [h]; rfl⟩
  have hchars : lowerChars s.toList = [] := by
    rw [← String.toList_ofList (l := lowerChars s.toList), ← lower, h]
    rfl
  cases hs : s.toList with
  | nil => exact String.toList_eq_nil_iff.1 hs
  | cons c rest =>
      rw [hs, lowerChars, lowerFrom, List.append_eq_nil_iff] at hchars
      exact absurd hchars.1 (lowerAt_ne_nil _ _ _)

end Text

namespace Trace.Limits

open Environment

variable {env : Environment} {name : String} {names : List String} {n : Int} {unset : Option Nat}

/-! ## One variable -/

theorem natural_of_nonneg (h : 0 ≤ n) : natural name n = .ok (some n.toNat) :=
  if_neg (Int.not_lt.2 h)

theorem natural_of_neg (h : n < 0) : natural name n = .error (.badLimit name (toString n)) :=
  if_pos h

theorem natural_eq_ok_iff {limit : Option Nat} :
    natural name n = .ok limit ↔ ∃ k : Nat, n = k ∧ limit = some k := by
  rcases Int.lt_or_le n 0 with hneg | hnonneg
  · rw [natural_of_neg hneg]
    refine iff_of_false (fun h => by cases h) ?_
    rintro ⟨k, rfl, -⟩
    omega
  · rw [natural_of_nonneg hnonneg]
    constructor
    · intro h
      exact ⟨n.toNat, (Int.toNat_of_nonneg hnonneg).symm, (Except.ok.inj h).symm⟩
    · rintro ⟨k, rfl, rfl⟩
      rfl

theorem ofVariable_of_unset (h : env.get? name = none) : ofVariable env name unset = .ok unset := by
  rw [ofVariable, h]

theorem ofVariable_of_blank {raw : String} (h : env.get? name = some raw)
    (hblank : strip raw = "") :
    ofVariable env name unset = .ok none := by
  rw [ofVariable, h]
  exact if_pos (lower_eq_empty_iff.2 hblank)

/-- Where a variable has a value, the strict reader sees the integers that the lenient one sees. -/
theorem ofVariable_of_set {raw : String} (h : env.get? name = some raw) (hset : strip raw ≠ "") :
    ofVariable env name unset =
      match readInteger (strip raw) with
      | .integer n => natural name n
      | _ => .error (.badLimit name (lower (strip raw))) := by
  rw [ofVariable, h]
  dsimp only
  cases hread : readInteger (strip raw) <;>
    rw [if_neg (mt lower_eq_empty_iff.1 hset), readInteger_lower, hread]

theorem ofVariable_of_holdsInteger (h : env.HoldsInteger name n) :
    ofVariable env name unset = natural name n := by
  obtain ⟨raw, hraw, hinteger⟩ := h
  have hset : strip raw ≠ "" := by
    intro hblank
    rw [hblank] at hinteger
    cases hinteger
  rw [ofVariable_of_set hraw hset, hinteger]

theorem ofVariable_eq_ok_iff {limit : Option Nat} :
    ofVariable env name unset = .ok limit ↔ env.SaysLimit name unset limit := by
  constructor
  · intro h
    cases hget : env.get? name with
    | none =>
        rw [ofVariable_of_unset hget] at h
        cases h
        exact .unset hget
    | some raw =>
        by_cases hblank : strip raw = ""
        · rw [ofVariable_of_blank hget hblank] at h
          cases h
          exact .blank hget hblank
        · rw [ofVariable_of_set hget hblank] at h
          cases hread : readInteger (strip raw) with
          | integer n =>
              rw [hread] at h
              obtain ⟨k, rfl, rfl⟩ := natural_eq_ok_iff.1 h
              exact .natural ⟨raw, hget, hread⟩
          | tooLong digits =>
              rw [hread] at h
              cases h
          | malformed =>
              rw [hread] at h
              cases h
  · rintro (hget | ⟨hget, hblank⟩ | hinteger)
    · exact ofVariable_of_unset hget
    · exact ofVariable_of_blank hget hblank
    · rw [ofVariable_of_holdsInteger hinteger]
      exact natural_eq_ok_iff.2 ⟨_, rfl, rfl⟩

theorem check_eq_ok_iff :
    check env names = .ok () ↔ ∀ name ∈ names, ∃ limit, env.SaysLimit name none limit := by
  unfold check
  induction names with
  | nil => exact iff_of_true rfl (List.forall_mem_nil _)
  | cons name rest ih =>
      rw [List.forM_cons, List.forall_mem_cons, ← ih]
      simp only [← ofVariable_eq_ok_iff]
      cases ofVariable env name none with
      | error fault => exact iff_of_false (fun h => by cases h) (fun ⟨⟨_, h⟩, _⟩ => by cases h)
      | ok limit => exact (and_iff_right ⟨limit, rfl⟩).symm

theorem check_of_unset (h : ∀ name ∈ names, env.get? name = none) : check env names = .ok () :=
  check_eq_ok_iff.2 fun name hname => ⟨none, .unset (h name hname)⟩

/-! ## What is given, and both together -/

/-- What a limit stands for that is given. -/
inductive IsGiven : Int → Option Nat → Prop
  | unlimited : IsGiven (-1) none
  | natural (n : Nat) : IsGiven n (some n)

theorem ofGiven_eq_ok_iff {limit : Option Nat} : ofGiven name n = .ok limit ↔ IsGiven n limit := by
  rw [ofGiven]
  by_cases hn : n = -1
  · subst hn
    rw [if_pos rfl]
    constructor
    · rintro ⟨⟩
      exact .unlimited
    · intro h
      generalize hm : (-1 : Int) = m at h
      cases h with
      | unlimited => rfl
      | natural k => omega
  · rw [if_neg hn, natural_eq_ok_iff]
    constructor
    · rintro ⟨k, rfl, rfl⟩
      exact .natural k
    · intro h
      cases h with
      | unlimited => exact absurd rfl hn
      | natural k => exact ⟨k, rfl, rfl⟩

/-- What is said of a limit, by what is given or else by its variable. -/
def Says (env : Environment) (name : String) (unset : Option Nat) (given : Option Int)
    (limit : Option Nat) : Prop :=
  match given with
  | some n => IsGiven n limit
  | none => env.SaysLimit name unset limit

/-- The limits that settings with these numbers ask for in an environment. The limit for spans is
what is given or what its variable says, else the general limit, else 128 attributes, and any
length. -/
structure StatedBy (env : Environment) (count length : Option Int) (limits : Limits) : Prop where
  attributes : ∃ general, env.SaysLimit generalCount none general ∧
    Says env spanCount (some (general.getD 128)) count limits.attributes
  textLength : ∃ general, Says env generalLength none length general ∧
    env.SaysLimit spanLength general limits.textLength
  others : ∀ name ∈ eventAndLinkCounts ++ eventAndLinkAttributes,
    ∃ limit, env.SaysLimit name none limit

theorem countOf_eq_ok_iff {general : Option Nat} {given : Option Int} {limit : Option Nat} :
    countOf env general given = .ok limit ↔
      Says env spanCount (some (general.getD 128)) given limit := by
  cases given with
  | none => exact ofVariable_eq_ok_iff
  | some n => exact ofGiven_eq_ok_iff

theorem lengthOf_eq_ok_iff {given : Option Int} {limit : Option Nat} :
    lengthOf env given = .ok limit ↔ Says env generalLength none given limit := by
  cases given with
  | none => exact ofVariable_eq_ok_iff
  | some n => exact ofGiven_eq_ok_iff

theorem bind_eq_ok {α β : Type} {x : Except Fault α} {next : α → Except Fault β} {b : β} :
    (x >>= next) = .ok b ↔ ∃ a, x = .ok a ∧ next a = .ok b := by
  cases x <;> simp [bind, Except.bind]

/-- A pair of limits is what the reader yields exactly where it is the one that is stated. -/
theorem resolve_eq_ok_iff {count length : Option Int} {limits : Limits} :
    resolve env count length = .ok limits ↔ StatedBy env count length limits := by
  unfold resolve
  simp only [bind_eq_ok, ofVariable_eq_ok_iff, countOf_eq_ok_iff, lengthOf_eq_ok_iff]
  constructor
  · rintro ⟨_, hcounts, general, hgeneral, attributes, hattributes, _, hothers, length, hlength,
      textLength, htextLength, hlimits⟩
    cases hlimits
    refine ⟨⟨general, hgeneral, hattributes⟩, ⟨length, hlength, htextLength⟩, ?_⟩
    exact List.forall_mem_append.2 ⟨check_eq_ok_iff.1 hcounts, check_eq_ok_iff.1 hothers⟩
  · rintro ⟨⟨general, hgeneral, hattributes⟩, ⟨length, hlength, htextLength⟩, hothers⟩
    obtain ⟨hcounts, hothers⟩ := List.forall_mem_append.1 hothers
    exact ⟨(), check_eq_ok_iff.2 hcounts, general, hgeneral, _, hattributes, (),
      check_eq_ok_iff.2 hothers, length, hlength, _, htextLength, rfl⟩

end Trace.Limits

end CommandTelemetry
