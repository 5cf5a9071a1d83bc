import CommandTelemetry.Proofs.Classification
import CommandTelemetry.Proofs.JsonWriter

/-!
# The text of deployment codes

The codes of a failed deployment are recorded as one text. It is there whenever the failure has a
code anywhere in its tree of lines, and it is a JSON text from which exactly the entries of the tree
can be read back, whatever characters the codes are made of. So failures with different entries
leave different texts.

Two arguments meet here. One follows the tree: entries are missing only where no line has a code.
The other one follows the text: the entries are written as a document, which the grammar of JSON
finds again, and reading the document gives the entries.
-/

namespace CommandTelemetry.Failure

open Json

/-! ## Trees without codes -/

/-- A line of a tree: the line on top, or a line of a tree below it. -/
inductive DeploymentLine.Within (l : DeploymentLine) : DeploymentLine → Prop
  | top : Within l l
  | inside {code message : String} {inner : List (Option DeploymentLine)} {m : DeploymentLine} :
      some m ∈ inner → Within l m → Within l (.line code message inner)

theorem levelCodes_eq_nil_iff {lines : List (Option DeploymentLine)} :
    levelCodes lines = [] ↔ ∀ m, some m ∈ lines → m.code = "" := by
  unfold levelCodes
  rw [List.filterMap_eq_nil_iff]
  constructor
  · intro h m hm
    by_contra hcode
    exact absurd (h _ hm) (by simp [hcode])
  · intro h l hl
    cases l with
    | none => rfl
    | some m => simp [h m hl]

theorem levelEntries_eq_nil_iff {frame : Nat} {lines : List (Option DeploymentLine)} :
    levelEntries frame lines = [] ↔ levelCodes lines = [] ∧ innerEntries frame lines = [] := by
  rw [levelEntries, levelEntry]
  cases levelCodes lines with
  | nil => simp
  | cons code codes => simp

theorem innerEntries_eq_nil_iff {frame : Nat} {lines : List (Option DeploymentLine)} :
    innerEntries frame lines = [] ↔ ∀ m, some m ∈ lines → levelEntries frame m.inner = [] := by
  induction lines with
  | nil => simp [innerEntries]
  | cons l rest ih =>
      rcases l with _ | ⟨code, message, inner⟩
      · simp [innerEntries, ih]
      · simp [innerEntries, ih, DeploymentLine.inner]

/-- The entries below a line are missing only if no line below it has a code. -/
theorem code_eq_empty_of_within {l m : DeploymentLine} (h : l.Within m) {frame : Nat}
    (hcode : m.code = "") (hinner : levelEntries frame m.inner = []) : l.code = "" := by
  induction h with
  | top => exact hcode
  | inside hm _ ih =>
      obtain ⟨hcodes, hbelow⟩ := levelEntries_eq_nil_iff.1 hinner
      exact ih (levelCodes_eq_nil_iff.1 hcodes _ hm) (innerEntries_eq_nil_iff.1 hbelow _ hm)

theorem levelEntries_inner_eq_nil {m : DeploymentLine} (frame : Nat)
    (h : ∀ l : DeploymentLine, l.Within m → l.code = "") : levelEntries frame m.inner = [] := by
  match m with
  | .line code message inner =>
      have hbelow : ∀ k, some k ∈ inner → ∀ l : DeploymentLine, l.Within k → l.code = "" :=
        fun k hk l hl => h l (.inside hk hl)
      rw [levelEntries_eq_nil_iff, levelCodes_eq_nil_iff, innerEntries_eq_nil_iff]
      refine ⟨fun k hk => hbelow k hk k .top, fun k hk => ?_⟩
      have : sizeOf (some k) < sizeOf inner := List.sizeOf_lt_of_mem hk
      exact levelEntries_inner_eq_nil frame (hbelow k hk)
termination_by sizeOf m
decreasing_by
  simp only [Option.some.sizeOf_spec] at this
  simp only [DeploymentLine.line.sizeOf_spec]
  omega

/-- A tree has an entry exactly when one of its lines has a code. -/
theorem deploymentCodes_ne_nil_iff {root : Option DeploymentLine} :
    deploymentCodes root ≠ [] ↔ ∃ top ∈ root, ∃ l : DeploymentLine, l.Within top ∧ l.code ≠ "" := by
  have hnil : deploymentCodes root = [] ↔
      ∀ m, some m ∈ [root] → ∀ l : DeploymentLine, l.Within m → l.code = "" := by
    rw [deploymentCodes, levelEntries_eq_nil_iff, levelCodes_eq_nil_iff, innerEntries_eq_nil_iff]
    constructor
    · rintro ⟨hcodes, hinner⟩ m hm l hl
      exact code_eq_empty_of_within hl (hcodes m hm) (hinner m hm)
    · intro h
      exact ⟨fun m hm => h m hm m .top, fun m hm => levelEntries_inner_eq_nil 0 (h m hm)⟩
  rw [ne_eq, hnil]
  cases root with
  | none => simp
  | some top => simp

/-! ## Entries as documents -/

def DeploymentCode.document (c : DeploymentCode) : Document :=
  .object [("error.code", .text c.code), ("error.frame", .number (toString (c.frame : Int)))]

def codesArray (codes : List DeploymentCode) : Document := .array (codes.map (·.document))

/-- The number that is written with digits only. -/
def natural? (s : String) : Option Nat :=
  if s.toList.all Char.isDigit && !s.toList.isEmpty then some (Nat.ofDigitChars 10 s.toList 0)
  else none

/-- The entry that an object of two keys is about. -/
def DeploymentCode.ofDocument? : Document → Option DeploymentCode
  | .object [("error.code", .text code), ("error.frame", .number frame)] =>
      (natural? frame).map fun n => ⟨code, n⟩
  | _ => none

/-- The entries that an array is about. -/
def codesOf? : Document → Option (List DeploymentCode)
  | .array items => items.mapM DeploymentCode.ofDocument?
  | _ => none

theorem natural?_repr (n : Nat) : natural? n.repr = some n := by
  have hdigits : (Nat.toDigits 10 n).all Char.isDigit = true := List.all_eq_true.2 fun c hc =>
    Nat.isDigit_of_mem_toDigits (by decide) (by decide) hc
  have hsome : (Nat.toDigits 10 n).isEmpty = false :=
    List.isEmpty_eq_false_iff.2 Nat.toDigits_ne_nil
  rw [natural?, Nat.toList_repr, Nat.ofDigitChars_ten_toDigits, hdigits, hsome]
  rfl

theorem DeploymentCode.ofDocument?_document (c : DeploymentCode) :
    ofDocument? c.document = some c := by
  show ((natural? c.frame.repr).map fun n => DeploymentCode.mk c.code n) = some c
  rw [natural?_repr, Option.map_some]

theorem codesOf?_codesArray (codes : List DeploymentCode) :
    codesOf? (codesArray codes) = some codes := by
  show (codes.map (·.document)).mapM DeploymentCode.ofDocument? = some codes
  induction codes with
  | nil => rfl
  | cons c cs ih =>
      rw [List.map_cons, List.mapM_cons, DeploymentCode.ofDocument?_document, ih]
      rfl

theorem numeric_codesArray (codes : List DeploymentCode) : (codesArray codes).Numeric := by
  have htext : ∀ s, (Document.text s).Numeric := fun s =>
    .mk (fun _ h => nomatch h) (fun _ h => nomatch h)
  have hnumber : ∀ n : Int, (Document.number (toString n)).Numeric := fun n => by
    refine .mk (fun w h => ?_) (fun _ h => nomatch h)
    obtain rfl := Document.number.inj h
    exact number_toString n
  refine .mk (fun _ h => nomatch h) fun d hd => ?_
  obtain ⟨c, -, rfl⟩ := List.mem_map.1 hd
  refine .mk (fun _ h => nomatch h) fun e he => ?_
  rcases List.mem_cons.1 he with rfl | he
  · exact htext c.code
  · rw [List.mem_singleton.1 he]
    exact hnumber c.frame

theorem codesDocument_toEntry (codes : List DeploymentCode) :
    codesDocument (codes.map (·.toEntry)) = .ok (codesArray codes) := by
  have hentries : (codes.map (·.toEntry)).mapM (fun e => do
      let code ← e.1.compact
      let frame ← e.2.compact
      pure (Document.object [("error.code", code), ("error.frame", frame)])) =
        (.ok (codes.map (·.document)) : Except Value.Unwritable _) := by
    induction codes with
    | nil => rfl
    | cons c cs ih =>
        rw [List.map_cons, List.mapM_cons, ih]
        rfl
  rw [codesDocument, hentries]
  rfl

/-! ## The recorded text -/

theorem denseCodes_eq (codes : List DeploymentCode) :
    denseCodes codes = some ((codesArray codes).write dense) := by
  rw [denseCodes, denseEncoder, codesDocument_toEntry]

theorem denotes_codes_iff (codes : List DeploymentCode) (d : Document) :
    Denotes ((codesArray codes).write dense) d ↔ d = codesArray codes :=
  denotes_write_iff faithful_dense (numeric_codesArray codes)

theorem codesArray_injective {codes codes' : List DeploymentCode}
    (h : codesArray codes = codesArray codes') : codes = codes' := by
  have hcodes := congrArg codesOf? h
  rwa [codesOf?_codesArray, codesOf?_codesArray, Option.some.injEq] at hcodes

theorem denseCodes_injective {codes codes' : List DeploymentCode}
    (h : denseCodes codes = denseCodes codes') : codes = codes' := by
  rw [denseCodes_eq, denseCodes_eq, Option.some.injEq] at h
  have hdoc := (denotes_codes_iff codes (codesArray codes)).2 rfl
  rw [h, denotes_codes_iff] at hdoc
  exact codesArray_injective hdoc

theorem detail?_ofDeployment (codes : Option String) :
    (ofDeployment codes).detail? "service.error.code" = codes.map .text := by
  cases codes <;> rfl

theorem classify_single_deployment (domains : List Domain) (root : Option DeploymentLine)
    (title : String) :
    (single (Node.deployment root title)).classify domains = ofDeployment (codesText root) := by
  have hdecisive : (single (Node.deployment root title)).decisiveShape = .deployment root :=
    decisiveShape_of_only (n := Node.deployment root title) rfl nofun fun m hm =>
      .inr (List.mem_singleton.1 hm)
  rw [classify_eq, hdecisive, ofShape]

/-- What is recorded of the codes of a failed deployment. -/
def recordedCodes (domains : List Domain) (root : Option DeploymentLine) (title : String) :
    Option Value :=
  ((single (Node.deployment root title)).classify domains).detail? "service.error.code"

variable {domains : List Domain} {root root' : Option DeploymentLine} {title title' : String}

theorem recordedCodes_eq :
    recordedCodes domains root title =
      if deploymentCodes root = [] then none
      else some (.text ((codesArray (deploymentCodes root)).write dense)) := by
  rw [recordedCodes, classify_single_deployment, detail?_ofDeployment, codesText]
  cases deploymentCodes root with
  | nil => rfl
  | cons c cs =>
      rw [if_neg (List.cons_ne_nil c cs)]
      simp only [denseCodes_eq, Option.map_some]

theorem recordedCodes_isSome_iff :
    (recordedCodes domains root title).isSome = true ↔ deploymentCodes root ≠ [] := by
  rw [recordedCodes_eq]
  split
  · next hnil => simp [hnil]
  · next hsome => simpa using hsome

theorem deploymentCodes_eq_of_recordedCodes
    (h : recordedCodes domains root title = recordedCodes domains root' title') :
    deploymentCodes root = deploymentCodes root' := by
  rw [recordedCodes_eq, recordedCodes_eq] at h
  split at h <;> split at h
  · next hnil hnil' => rw [hnil, hnil']
  · cases h
  · cases h
  · have htext := Value.text.inj (Option.some.inj h)
    exact denseCodes_injective (by rw [denseCodes_eq, denseCodes_eq, htext])

/-- The codes of a failed deployment are recorded when a line of its tree has one. The recorded text
stands, by the grammar of JSON, for one document only: an array of objects with a code and a frame,
which are exactly the entries of the tree in their order. So trees with different entries are
recorded differently, and so are any two lists of entries. -/
theorem recordedCodes_decode (domains : List Domain) (root : Option DeploymentLine)
    (title : String) :
    ((recordedCodes domains root title).isSome = true ↔
      ∃ top ∈ root, ∃ l : DeploymentLine, l.Within top ∧ l.code ≠ "") ∧
    (∀ v, recordedCodes domains root title = some v → ∃ s d, v = .text s ∧
      (∀ e, Denotes s e ↔ e = d) ∧ codesOf? d = some (deploymentCodes root)) ∧
    (∀ root' title', recordedCodes domains root title = recordedCodes domains root' title' →
      deploymentCodes root = deploymentCodes root') ∧
    (∀ codes codes' : List DeploymentCode, denseCodes codes = denseCodes codes' →
      codes = codes') := by
  refine ⟨recordedCodes_isSome_iff.trans deploymentCodes_ne_nil_iff, fun v hv => ?_,
    fun _ _ => deploymentCodes_eq_of_recordedCodes, fun _ _ => denseCodes_injective⟩
  rw [recordedCodes_eq] at hv
  split at hv
  · cases hv
  · obtain rfl := Option.some.inj hv
    exact ⟨_, codesArray (deploymentCodes root), rfl, denotes_codes_iff _, codesOf?_codesArray _⟩

example : denseCodes [⟨"Quota,\"\\\x01é", 0⟩] =
    some "[\x7b\"error.code\":\"Quota,\\\"\\\\\\u0001é\",\"error.frame\":0\x7d]" := by
  decide

end CommandTelemetry.Failure
