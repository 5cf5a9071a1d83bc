import CommandTelemetry.Proofs.ExitCategory
import CommandTelemetry.Proofs.InterceptorExits

/-!
# Nested invocations

A command may run other commands, and these may run others. What an action does in between is its
own affair, except that it may record facts, and that it sees how the invocations it made have
ended. A `Course` is such an action: a tree that branches over everything the action may see. It
says of each nested invocation whether it is made as a child and whether the action passes on the
context that it was given or none.

A course means two things. `action` runs it, with the interceptor as the only middleware, on a
session with contexts, baggage and spans. `plan` knows nothing of these: it lists which invocations
are entered, one inside or beside the other, how each of their actions ended, and what had been
recorded at the end of each. What the spans of a run ought to look like is said over the plan.
-/

namespace CommandTelemetry

open Trace Label Attribute

open Script (outcomeOf)

/-! ## Forests -/

/-- Ordered trees, one beside the other. -/
inductive Forest (α : Type) where
  | nil
  | cons (root : α) (inside rest : Forest α)

namespace Forest

variable {α β : Type}

def map (f : α → β) : Forest α → Forest β
  | nil => nil
  | cons root inside rest => cons (f root) (inside.map f) (rest.map f)

def preorder : Forest α → List α
  | nil => []
  | cons root inside rest => root :: inside.preorder ++ rest.preorder

def postorder : Forest α → List α
  | nil => []
  | cons root inside rest => inside.postorder ++ root :: rest.postorder

/-- Something holds of each node and of what stands above it, the nearest first. -/
def Each (p : List α → α → Prop) (above : List α) : Forest α → Prop
  | nil => True
  | cons root inside rest =>
    p above root ∧ inside.Each p (root :: above) ∧ rest.Each p above

theorem Each.imp {p q : List α → α → Prop} (h : ∀ above a, p above a → q above a)
    {above : List α} {t : Forest α} (ht : t.Each p above) : t.Each q above := by
  induction t generalizing above with
  | nil => trivial
  | cons root inside rest ihi ihr => exact ⟨h _ _ ht.1, ihi ht.2.1, ihr ht.2.2⟩

/-- What each node's second part tells like its first can be read off the first parts. -/
theorem map_snd_postorder {γ : Type} (f : β → γ) (g : α → γ) {above : List (α × β)}
    {t : Forest (α × β)} (h : t.Each (fun _ x => f x.2 = g x.1) above) :
    (t.postorder.map Prod.snd).map f = (t.map Prod.fst).postorder.map g := by
  induction t generalizing above with
  | nil => rfl
  | cons root inside rest ihi ihr =>
      simp only [map, postorder, List.map_append, List.map_cons]
      rw [ihi h.2.1, ihr h.2.2, h.1]

/-- Both orders list the same nodes. -/
theorem preorder_perm_postorder (t : Forest α) : t.preorder.Perm t.postorder := by
  induction t with
  | nil => exact .nil
  | cons root inside rest ihi ihr =>
      exact ((ihi.append ihr).cons root).trans List.perm_middle.symm

end Forest

/-! ## Courses -/

/-- What an action does in terms of nested invocations, and how it ends. -/
inductive Course (ε : Type) where
  | finish (outcome : Except Failure Answer)
  /-- The action changes what is recorded, and goes on with what it finds there. -/
  | note (change : Usage × ε → Usage × ε) (next : Usage × ε → Course ε)
  /-- The action runs another one, and goes on however that ends. -/
  | invoke (asChild : Bool) (options : CommandOptions) (passes : Bool) (inside : Course ε)
      (next : Except Failure Answer → Course ε)

/-- What actions can see of a session. -/
def Session.notes {ε : Type} (s : Session ε) : Usage × ε := (s.usage, s.own)

def Session.withNotes {ε : Type} (s : Session ε) (notes : Usage × ε) : Session ε :=
  { s with usage := notes.1, own := notes.2 }

namespace Course

variable {ε : Type}

/-- Runs an action as an invocation of its own or as a child. -/
def invocation (read : Usage × ε → Usage) (domains : List Domain) (settings : Settings)
    (asChild : Bool) :
    Option Context → CommandOptions → Action (Session ε) → Effect (Session ε) Answer :=
  let chain := [Interceptor.factory (fun s => read s.notes) domains settings]
  if asChild then Action.runChild chain else Action.run chain

def action (read : Usage × ε → Usage) (domains : List Domain) (settings : Settings) :
    Course ε → Action (Session ε)
  | finish outcome => fun _ => Effect.conclude outcome
  | note change next => fun ctx => do
    modify fun s => s.withNotes (change s.notes)
    (next (← get).notes).action read domains settings ctx
  | invoke asChild options passes inside next => fun ctx => do
    let outcome ← Effect.attempt
      (invocation read domains settings asChild (if passes then ctx else none) options
        (inside.action read domains settings))
    (next outcome).action read domains settings ctx

end Course

/-! ## Plans -/

/-- An invocation that was entered. -/
structure Visit where
  /-- The options that its interceptor was given. -/
  options : CommandOptions
  /-- How its action ended. -/
  ending : Except Failure Answer
  /-- What was recorded about use when it was over. -/
  usage : Usage

structure Plan (ε : Type) where
  visits : Forest Visit
  outcome : Except Failure Answer
  notes : Usage × ε

namespace Course

variable {ε : Type}

/-- The options of an invocation that is a child if it is made as one. -/
def optionsOf (asChild : Bool) (options : CommandOptions) : CommandOptions :=
  if asChild then { options with isChild := true } else options

/-- How an invocation ends whose action ended like this. -/
def ended (traceText : String) : Except Failure Answer → Except Failure Answer
  | .ok a => ((Interceptor.stamp traceText a).mapError Failure.ofFault).map Action.resultOf
  | .error f => .error f

def plan (read : Usage × ε → Usage) (traceText : String) :
    Course ε → Usage × ε → Plan ε
  | finish outcome, notes => ⟨.nil, outcome, notes⟩
  | note change next, notes => (next (change notes)).plan read traceText (change notes)
  | invoke asChild options _ inside next, notes =>
    let within := inside.plan read traceText notes
    let after := (next (ended traceText within.outcome)).plan read traceText within.notes
    { visits :=
        .cons ⟨optionsOf asChild options, within.outcome, read within.notes⟩ within.visits
          after.visits
      outcome := after.outcome
      notes := after.notes }

def traceTextOf (traceId : Nat) : String := ({ traceId } : SpanContext).traceText

/-- The visits of a course that is run as an invocation with which a trace begins. -/
def visits (read : Usage × ε → Usage) (asChild : Bool) (options : CommandOptions) (c : Course ε)
    (s : Session ε) : Forest Visit :=
  let plan := c.plan read (traceTextOf s.ids.nextTrace.1) s.notes
  .cons ⟨optionsOf asChild options, plan.outcome, read plan.notes⟩ plan.visits .nil

end Course

/-! ## The span of a visit -/

def runAttributes : Option String → Attributes
  | none | some "" => []
  | some id => [(AttributeName.runId.key, .text id)]

namespace Visit

/-- The entry that an invocation finds: the name of the nearest one above that is no child. -/
def entry (above : List Visit) : Option String :=
  (above.find? (!·.options.isChild)).map fun v => spanName v.options.path

/-- The normal forms of what was recorded about use, and what is logged of them. -/
def used (settings : Settings) (v : Visit) : Logged Attributes :=
  match normalize settings v.usage with
  | .ok l => l
  | .error _ => pure []

def entryBaggage (above : List Visit) : List (String × String) :=
  (entry above).toList.map fun name => (AttributeName.cmdEntry.key, name)

def entryAttributes (above : List Visit) : Attributes :=
  (entryBaggage above).map fun e => (e.1, .text e.2)

theorem baggageAttributes_of_entry {ctx : Context} {above : List Visit}
    (h : ctx.baggage = entryBaggage above) : ctx.baggageAttributes = entryAttributes above := by
  rw [Context.baggageAttributes, h, entryAttributes]

def ownWrites (runId : Option String) (domains : List Domain) (settings : Settings) (v : Visit) :
    Attributes :=
  runAttributes runId ++ Interceptor.described v.options ++
    Interceptor.writesOf domains settings v.ending ++ (v.used settings).value

/-- All that is written on the span, in order. -/
def writes (runId : Option String) (domains : List Domain) (settings : Settings)
    (above : List Visit) (v : Visit) : Attributes :=
  entryAttributes above ++ v.ownWrites runId domains settings

/-- The recorded use consists of values for spans, none of them in place of the entry, and no limit
cuts anything off. -/
structure Fits (limits : Limits) (runId : Option String) (domains : List Domain)
    (settings : Settings) (above : List Visit) (v : Visit) : Prop where
  values : ∀ e ∈ v.usage, IsSpanFact e
  keys : ∀ e ∈ v.usage, e.1.display ≠ .ok AttributeName.cmdEntry.key
  room : Span.Room limits ((v.writes runId domains settings above).map Prod.fst)
  entryLength : ∀ name ∈ entry above, ∀ n, limits.textLength = some n → name.length ≤ n

/-- The span that the visit leaves behind. -/
def span (limits : Limits) (runId : Option String) (domains : List Domain) (settings : Settings)
    (scopeVersion : String) (context : SpanContext) (parent : Option Nat) (above : List Visit)
    (v : Visit) : Span where
  context
  parent
  name := spanName v.options.path
  scope := Scope.cli.name
  scopeVersion
  limits
  isRecording := true
  attributes := Span.storeAll limits [] (v.writes runId domains settings above)
  status := Interceptor.statusOf domains v.ending

section Entry

variable {limits : Limits} {runId : Option String} {domains : List Domain} {settings : Settings}
  {above : List Visit} {v : Visit}

theorem used_eq (h : ∀ e ∈ v.usage, IsSpanFact e) :
    normalize settings v.usage = .ok (v.used settings) := by
  obtain ⟨used, hused⟩ := normalize_ok settings h
  rw [Visit.used, hused]

theorem errorKey_ne {key : String} (hkey : key.toList.head? ≠ some 'e') (name : String) :
    errorKey name ≠ key := by
  have hlist : (errorKey name).toList = 'e' :: ("rror." ++ name).toList := by
    rw [errorKey, String.toList_append, String.toList_append]
    rfl
  exact ne_of_toList_cons hlist hkey

theorem mem_keys_runAttributes {k : String} (h : k ∈ (runAttributes runId).map Prod.fst) :
    k = AttributeName.runId.key := by
  unfold runAttributes at h
  split at h
  · cases h
  · cases h
  · exact List.mem_singleton.1 h

/-- Behind the name of the run an invocation writes what it was given, details of how it failed,
and the recorded use. -/
theorem mem_keys_told (h : ∀ e ∈ v.usage, IsSpanFact e) {k : String}
    (hk : k ∈ (Interceptor.described v.options ++ Interceptor.writesOf domains settings v.ending ++
      (v.used settings).value).map Prod.fst) :
    (k = AttributeName.cmdFlags.key ∨ k = AttributeName.cmdArgsCount.key) ∨
      (∃ name, k = errorKey name) ∨ ∃ e ∈ v.usage, e.1.display = .ok k := by
  rw [List.map_append, List.map_append] at hk
  rcases List.mem_append.1 hk with hk | hk
  · rcases List.mem_append.1 hk with hk | hk
    · left
      unfold Interceptor.described at hk
      revert hk
      cases v.options.flags with
      | none => exact fun hk => Or.inr (List.mem_singleton.1 hk)
      | some flags => simp
    · right; left
      obtain ⟨f, hf⟩ := Interceptor.exists_of_mem_writesOf hk
      obtain ⟨a, ha, rfl⟩ := List.mem_map.1 hf
      obtain ⟨d, -, rfl⟩ := List.mem_map.1 ha
      exact ⟨_, rfl⟩
  · right; right
    exact keys_normalize (used_eq h) hk

/-- The entry is written once, if at all. -/
theorem cmdEntry_notMem_ownWrites (h : v.Fits limits runId domains settings above) :
    AttributeName.cmdEntry.key ∉ (v.ownWrites runId domains settings).map Prod.fst := by
  intro hmem
  rw [ownWrites, List.append_assoc, List.append_assoc,
    ← List.append_assoc _ _ (v.used settings).value, List.map_append] at hmem
  rcases List.mem_append.1 hmem with hmem | hmem
  · exact absurd (mem_keys_runAttributes hmem) (by decide)
  · rcases mem_keys_told h.values hmem with (hk | hk) | ⟨name, hk⟩ | ⟨e, he, hk⟩
    · exact absurd hk (by decide)
    · exact absurd hk (by decide)
    · exact errorKey_ne (by decide) name hk.symm
    · exact h.keys e he hk

theorem lookup_entryAttributes (above : List Visit) :
    (entryAttributes above).reverse.lookup AttributeName.cmdEntry.key =
      (entry above).map .text := by
  unfold entryAttributes entryBaggage
  cases entry above with
  | none => rfl
  | some name => exact Span.lookup_single_self _ _

/-- The span carries the entry that the invocation found, and none where it found none. -/
theorem lookup_cmdEntry (h : v.Fits limits runId domains settings above) (scopeVersion : String)
    (context : SpanContext) (parent : Option Nat) :
    (v.span limits runId domains settings scopeVersion context parent above).attributes.lookup
        AttributeName.cmdEntry.key = (entry above).map .text := by
  have hne : ∀ e ∈ v.ownWrites runId domains settings, AttributeName.cmdEntry.key ≠ e.1 :=
    fun e he heq => cmdEntry_notMem_ownWrites h (heq ▸ List.mem_map_of_mem he)
  have hown : (v.ownWrites runId domains settings).reverse.lookup AttributeName.cmdEntry.key =
      none :=
    List.lookup_eq_none_iff.2 fun e he => bne_iff_ne.2 (hne e (List.mem_reverse.1 he))
  have htaken : ∀ e ∈ v.writes runId domains settings above,
      e.1 = AttributeName.cmdEntry.key → isRefused e.2 = false := by
    intro e he hkey
    rcases List.mem_append.1 he with he | he
    · obtain ⟨b, -, rfl⟩ := List.mem_map.1 he
      rfl
    · exact absurd hkey.symm (hne e he)
  have hkept : ((entry above).map Value.text).map (Span.kept limits) =
      (entry above).map .text := by
    cases hentry : entry above with
    | none => rfl
    | some name =>
        exact congrArg some (Span.kept_text fun n hn => h.entryLength name hentry n hn)
  rw [span, Span.lookup_storeAll_nil (by decide) htaken h.room, writes, List.reverse_append,
    List.lookup_append, hown, Option.none_or, lookup_entryAttributes, hkept]

/-- Little more is written on a span than what was recorded about use. -/
theorem length_writes_le (runId : Option String) (domains : List Domain) (settings : Settings)
    (above : List Visit) (h : ∀ e ∈ v.usage, IsSpanFact e) :
    (v.writes runId domains settings above).length ≤ v.usage.length + 9 := by
  have hentry : (entryAttributes above).length ≤ 1 := by
    unfold entryAttributes entryBaggage
    cases entry above <;> simp
  have hrun : (runAttributes runId).length ≤ 1 := by
    unfold runAttributes
    split <;> simp
  have hdescribed : (Interceptor.described v.options).length ≤ 2 := by
    unfold Interceptor.described
    cases v.options.flags <;> simp
  have hclassified := Interceptor.length_writesOf_le domains settings v.ending
  have hused : (v.used settings).value.length ≤ v.usage.length := length_normalize_le (used_eq h)
  simp only [writes, ownWrites, List.length_append]
  omega

/-- Few facts fit where the length of texts is not limited. -/
theorem fits_of_few {n : Nat} (hvalues : ∀ e ∈ v.usage, IsSpanFact e)
    (hkeys : ∀ e ∈ v.usage, e.1.display ≠ .ok AttributeName.cmdEntry.key)
    (hfew : v.usage.length + 9 ≤ n) : v.Fits ⟨some n, none⟩ runId domains settings above := by
  refine ⟨hvalues, hkeys, Span.room_of_length_le ?_, fun name _ n hn => by cases hn⟩
  rintro _ ⟨⟩
  have hwrites := length_writes_le runId domains settings above hvalues
  rw [List.length_map]
  omega

end Entry

end Visit

end CommandTelemetry
