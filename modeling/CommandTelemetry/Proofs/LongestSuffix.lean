import Mathlib.Data.List.Nodup
import CommandTelemetry.Label.Service

/-!
# The longest suffix decides

A table of domains is read from the front, and the first entry whose name is a suffix of the host
decides. That makes the answer a matter of the order of the table, and an entry can stand where it
never decides anything, behind one whose name is a suffix of its own. A table without such entries
is a set of names, and what it answers can be said without any order: the entry with the longest
name decides.

The reason is that two suffixes of one host are suffixes of one another. So of two names that match,
the longer one ends in the shorter one, and the shorter one cannot stand in front of it.
-/

namespace CommandTelemetry.Label

variable {table table' : List Domain} {host host' : String} {d e : Domain}

def Matches (host : String) (d : Domain) : Prop := d.name.toList <:+ host.toList

instance (host : String) (d : Domain) : Decidable (Matches host d) :=
  inferInstanceAs (Decidable (_ <:+ _))

/-- No name is a suffix of a name behind it. -/
def Unshadowed (table : List Domain) : Prop :=
  table.Pairwise fun d e => ¬d.name.toList <:+ e.name.toList

instance (table : List Domain) : Decidable (Unshadowed table) :=
  inferInstanceAs (Decidable (table.Pairwise _))

def Domain.labels (d : Domain) : Service := ⟨d.service, d.name⟩

/-- The entry has the longest name of those that match. -/
structure IsLongest (table : List Domain) (host : String) (d : Domain) : Prop where
  mem : d ∈ table
  covers : Matches host d
  length_le : ∀ e ∈ table, Matches host e → e.name.length ≤ d.name.length

/-- What a table says about a host, whatever its order. -/
inductive Says (table : List Domain) (host : String) : Service → Prop
  | longest {d : Domain} (h : IsLongest table host d) : Says table host (Domain.labels d)
  | unknown (h : ∀ d ∈ table, ¬Matches host d) : Says table host unknownService

theorem covers_iff : Domain.covers d host = true ↔ Matches host d :=
  List.isSuffixOf_iff_suffix

/-- Of two names that match, the one that is not longer is a suffix of the other. -/
theorem suffix_of_matches (hd : Matches host d) (he : Matches host e)
    (hle : d.name.length ≤ e.name.length) : d.name.toList <:+ e.name.toList := by
  rw [← String.length_toList, ← String.length_toList] at hle
  exact List.suffix_of_suffix_length_le hd he hle

theorem Unshadowed.nodup_names (h : Unshadowed table) : (table.map Domain.name).Nodup := by
  refine List.pairwise_map.2 (h.imp fun {d e} hnot hname => hnot ?_)
  exact congrArg String.toList hname ▸ List.suffix_rfl

theorem IsLongest.unique (h : Unshadowed table) (hd : IsLongest table host d)
    (he : IsLongest table host e) : d = e := by
  have hlength : d.name.length = e.name.length :=
    Nat.le_antisymm (he.length_le d hd.mem hd.covers)
      (hd.length_le e he.mem he.covers)
  have hsuffix := suffix_of_matches hd.covers he.covers (Nat.le_of_eq hlength)
  rw [← String.length_toList, ← String.length_toList] at hlength
  have hname : d.name = e.name := String.toList_inj.1 (hsuffix.eq_of_length hlength)
  exact List.inj_on_of_nodup_map h.nodup_names hd.mem he.mem hname

/-- The first entry that matches is the one with the longest name. -/
theorem isLongest_of_find? (h : Unshadowed table)
    (hfind : table.find? (Domain.covers · host) = some d) : IsLongest table host d := by
  obtain ⟨hcovers, front, behind, rfl, hfront⟩ := List.find?_eq_some_iff_append.1 hfind
  have hd : Matches host d := covers_iff.1 hcovers
  refine ⟨List.mem_append_right _ List.mem_cons_self, hd, fun e he hmatch => ?_⟩
  rcases List.mem_append.1 he with he | he
  · -- Nothing in front of it matches.
    have hnot := hfront e he
    rw [covers_iff.2 hmatch] at hnot
    cases hnot
  · rcases List.mem_cons.1 he with rfl | he
    · exact Nat.le_refl _
    · -- A longer name that matches would end in this one, and stands behind it.
      have hnot := (List.pairwise_cons.1 (List.pairwise_append.1 h).2.1).1 e he
      by_contra hlonger
      exact hnot (suffix_of_matches hd hmatch (by omega))

theorem says_resolveService (h : Unshadowed table) (host : String) :
    Says table host (resolveService table host) := by
  unfold resolveService
  cases hfind : table.find? (Domain.covers · host) with
  | some d => exact .longest (isLongest_of_find? h hfind)
  | none =>
      refine .unknown fun d hd hmatch => ?_
      exact List.find?_eq_none.1 hfind d hd (covers_iff.2 hmatch)

theorem Says.unique (h : Unshadowed table) {s t : Service} (hs : Says table host s)
    (ht : Says table host t) : s = t := by
  cases hs with
  | longest hd =>
      cases ht with
      | longest he => rw [hd.unique h he]
      | unknown hnone => exact absurd hd.covers (hnone _ hd.mem)
  | unknown hnone =>
      cases ht with
      | longest he => exact absurd he.covers (hnone _ he.mem)
      | unknown _ => rfl

/-- A table says one thing about a host, and that is the answer. -/
theorem resolveService_eq_iff (h : Unshadowed table) {s : Service} :
    resolveService table host = s ↔ Says table host s :=
  ⟨fun heq => heq ▸ says_resolveService h host, (says_resolveService h host).unique h⟩

theorem says_unknownService_iff :
    Says table host unknownService ↔
      (∀ d ∈ table, ¬Matches host d) ∨ IsLongest table host ⟨other, other⟩ := by
  constructor
  · intro hs
    generalize hanswer : unknownService = s at hs
    cases hs with
    | @longest d hd =>
        obtain ⟨name, service⟩ := d
        have hname : name = other := (congrArg Service.host hanswer).symm
        have hservice : service = other := (congrArg Service.service hanswer).symm
        rw [hname, hservice] at hd
        exact .inr hd
    | unknown hnone => exact .inl hnone
  · rintro (hnone | hd)
    · exact .unknown hnone
    · exact .longest hd

theorem IsLongest.perm (hd : IsLongest table host d) (hperm : table.Perm table') :
    IsLongest table' host d :=
  ⟨hperm.mem_iff.1 hd.mem, hd.covers, fun e he => hd.length_le e (hperm.mem_iff.2 he)⟩

theorem Says.perm {s : Service} (hs : Says table host s) (hperm : table.Perm table') :
    Says table' host s := by
  cases hs with
  | longest hd => exact .longest (hd.perm hperm)
  | unknown hnone => exact .unknown fun d hd => hnone d (hperm.mem_iff.2 hd)

theorem isLongest_name (hd : d ∈ table) : IsLongest table d.name d := by
  refine ⟨hd, List.suffix_rfl, fun e _ hmatch => ?_⟩
  rw [← String.length_toList, ← String.length_toList]
  exact hmatch.length_le

theorem resolveService_congr (hsame : ∀ d ∈ table, Matches host d ↔ Matches host' d) :
    resolveService table host = resolveService table host' := by
  have hcovers : ∀ d ∈ table, Domain.covers d host = Domain.covers d host' := fun d hd =>
    Bool.eq_iff_iff.2 (by rw [covers_iff, covers_iff, hsame d hd])
  rw [resolveService, resolveService, ← List.head?_filter, ← List.head?_filter,
    List.filter_congr hcovers]

/-- Without entries that never decide, the longest name that is a suffix of the host decides, and
nothing else: neither the order of the table, nor anything of the host beyond which names match. The
labels for unknown hosts are the answer where no name matches, and where an entry itself gives these
labels. -/
theorem longest_suffix_decides :
    Unshadowed wellKnownDomains ∧ ⟨other, other⟩ ∉ wellKnownDomains ∧
      ∀ table, Unshadowed table →
        (∀ host s, resolveService table host = s ↔ Says table host s) ∧
        (∀ host, resolveService table host = unknownService ↔
          (∀ d ∈ table, ¬Matches host d) ∨ IsLongest table host ⟨other, other⟩) ∧
        (∀ table', table.Perm table' → Unshadowed table' →
          ∀ host, resolveService table host = resolveService table' host) ∧
        (∀ d ∈ table, ∃ host, resolveService table host = Domain.labels d) ∧
        ∀ host host', (∀ d ∈ table, Matches host d ↔ Matches host' d) →
          resolveService table host = resolveService table host' := by
  refine ⟨by decide +kernel, by decide, fun table h => ⟨fun host s => resolveService_eq_iff h,
    fun host => ?_, fun table' hperm h' host => ?_, fun d hd => ⟨d.name, ?_⟩,
    fun host host' hsame => ?_⟩⟩
  · rw [resolveService_eq_iff h, says_unknownService_iff]
  · exact (resolveService_eq_iff h).2 ((says_resolveService h' host).perm hperm.symm)
  · exact (resolveService_eq_iff h).2 (.longest (isLongest_name hd))
  · exact resolveService_congr hsame

/-- Two tables of the same entries, one of which ends in another. -/
def nestedDomains : List Domain :=
  [⟨"dev.azure.com", "azdo"⟩, ⟨"docker.io", "docker"⟩, ⟨"azure.com", "arm"⟩]

def reorderedDomains : List Domain :=
  [⟨"docker.io", "docker"⟩, ⟨"dev.azure.com", "azdo"⟩, ⟨"azure.com", "arm"⟩]

theorem nestedDomains_decide :
    Unshadowed nestedDomains ∧
      resolveService nestedDomains "myorg.dev.azure.com" = ⟨"azdo", "dev.azure.com"⟩ ∧
      resolveService nestedDomains "example.org" = unknownService ∧
      resolveService reorderedDomains "login.azure.com" = ⟨"arm", "azure.com"⟩ := by
  have h : Unshadowed nestedDomains := by decide +kernel
  obtain ⟨hanswers, hunknown, hperm, -, -⟩ := longest_suffix_decides.2.2 nestedDomains h
  have hlongest : IsLongest nestedDomains "myorg.dev.azure.com" ⟨"dev.azure.com", "azdo"⟩ :=
    ⟨by decide, by decide +kernel, by decide +kernel⟩
  have hlogin : IsLongest nestedDomains "login.azure.com" ⟨"azure.com", "arm"⟩ :=
    ⟨by decide, by decide +kernel, by decide +kernel⟩
  refine ⟨h, (hanswers _ _).2 (.longest hlongest), (hunknown _).2 (.inl (by decide +kernel)), ?_⟩
  rw [← hperm reorderedDomains (by decide) (by decide +kernel)]
  exact (hanswers _ _).2 (.longest hlogin)

end CommandTelemetry.Label
