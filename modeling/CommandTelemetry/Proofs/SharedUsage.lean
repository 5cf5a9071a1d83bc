import CommandTelemetry.Proofs.NestedSpans
import CommandTelemetry.Proofs.UsageOnSpan
import CommandTelemetry.Proofs.UsageWrites

/-!
# Usage that is shared

Any number of clients record facts in one place, read it off and clear it, while commands run there
that may run other commands. Each of these steps is taken under a lock, so what befalls the place is
a sequence of steps, in the order in which the lock was acquired. A `Work` is such a run: a tree of
steps and invocations that branches over what was read off and over how invocations ended. What
another client does while a command runs stands among the steps of that command.

A work is run with the interceptor as it is, and `events` lists what happens on the way: the steps
in their order, what was read off, and the spans that end where an invocation is over. The law of
one event, `Follows`, speaks of the events before it and of nothing else. So what is read off, and
what a span takes in at its end, is what was recorded by then since the place was last cleared. It
does not matter by whom, or in which invocation, and nothing that comes later has a part in it.
-/

namespace CommandTelemetry

open Trace Label Attribute

open Script (outcomeOf)

namespace Usage

/-! ## Events -/

inductive Change where
  | set (name value : Value)
  | update (facts : List (Value × Value))
  | clear

def Change.apply : Change → Usage → Usage
  | set name value, u => u.set name value
  | update facts, u => u.update facts
  | clear, _ => []

inductive Event where
  | changed (client : Nat) (change : Change)
  | read (client : Nat) (found : Usage)
  /-- An invocation is over. Before its usage was written, its span was `told` all else. -/
  | closed (told : Span) (ended : List Span)

def Event.ended : Event → List Span
  | closed _ ended => ended
  | _ => []

/-- What has been recorded by whom after an event, where this was recorded before it. -/
def Event.recorded (before : List (Nat × (Value × Value))) :
    Event → List (Nat × (Value × Value))
  | changed client (.set name value) => before ++ [(client, (name, value))]
  | changed client (.update facts) => before ++ facts.map fun f => (client, f)
  | changed _ .clear => []
  | _ => before

/-- What was recorded by whom since the latest clearance, in order. -/
def recordedIn (events : List Event) : List (Nat × (Value × Value)) :=
  events.foldl Event.recorded []

def writesIn (events : List Event) : List (Value × Value) := (recordedIn events).map Prod.snd

/-- The law of an event. What is read off is what the writes since the latest clearance come to. If
these are facts that the span of an invocation can take in, no more than the settings let through,
and it has room for them, then it ends with the value that was last recorded under each name, and
otherwise with what it was told. -/
def Event.Follows (settings : Settings) (earlier : List Event) : Event → Prop
  | changed .. => True
  | read _ found => found = ofWrites (writesIn earlier)
  | closed told ended =>
    told.isRecording = true → ∀ named : Attributes, writesIn earlier = facts named →
      (∀ fact ∈ named, Span.Takes settings told.limits fact) →
      (∀ n, settings.countLimit = some n → ((putAll [] named).length : Int) ≤ n) →
      Span.Room told.limits (told.attributes.map Prod.fst ++ named.map Prod.fst) →
      ∃ span, ended = [span] ∧ span.context = told.context ∧ span.name = told.name ∧
        ∀ k ≠ "", span.attributes.lookup k =
          ((named.reverse.lookup k).map Value.carried).or (told.attributes.lookup k)

/-- The span of an invocation that began in `s`, once its action has ended and all is written on it
but usage. -/
def toldSpan {ε : Type} (domains : List Domain) (settings : Settings) (options : CommandOptions)
    (ctx : Option Context) (s : Session ε) (o : Except Failure Answer) : Span :=
  Interceptor.settledSpan domains settings (Interceptor.spanOf options ctx s) o

/-- A place in the notes of a session where usage is kept. -/
structure Place (ε : Type) where
  read : Usage × ε → Usage
  write : Usage → Usage × ε → Usage × ε
  read_write : ∀ u notes, read (write u notes) = u

/-- The usage of the process. -/
def Place.process (ε : Type) : Place ε where
  read := Prod.fst
  write u notes := (u, notes.2)
  read_write _ _ := rfl

end Usage

/-! ## Works -/

/-- Steps of clients, and commands that consist of such steps in turn. -/
inductive Work where
  | finish (outcome : Except Failure Answer)
  | step (client : Nat) (change : Usage.Change) (next : Work)
  | read (client : Nat) (next : Usage → Work)
  /-- An invocation in a context that may depend on the one that is given here. -/
  | invoke (asChild : Bool) (options : CommandOptions) (given : Option Context → Option Context)
      (inside : Work) (next : Except Failure Answer → Work)

namespace Work

open Usage

variable {ε : Type}

def changed (place : Place ε) (change : Change) (s : Session ε) : Session ε :=
  s.withNotes (place.write (change.apply (place.read s.notes)) s.notes)

def action (place : Place ε) (domains : List Domain) (settings : Settings) :
    Work → Action (Session ε)
  | finish outcome => fun _ => Effect.conclude outcome
  | step _ change next => fun ctx => do
    modify (changed place change)
    next.action place domains settings ctx
  | read _ next => fun ctx => do
    (next (place.read (← get).notes)).action place domains settings ctx
  | invoke asChild options given inside next => fun ctx => do
    let outcome ← Effect.attempt
      (Course.invocation place.read domains settings asChild (given ctx) options
        (inside.action place domains settings))
    (next outcome).action place domains settings ctx

/-- What happens while a work is run. -/
def events (place : Place ε) (domains : List Domain) (settings : Settings) :
    Work → Option Context → Session ε → List Event
  | finish _, _, _ => []
  | step client change next, ctx, s =>
    .changed client change :: next.events place domains settings ctx (changed place change s)
  | read client next, ctx, s =>
    .read client (place.read s.notes) ::
      (next (place.read s.notes)).events place domains settings ctx s
  | invoke asChild options given inside next, ctx, s =>
    let described := Course.optionsOf asChild options
    let left := Interceptor.inner described (given ctx) (inside.action place domains settings) s
    let after := outcomeOf (Course.invocation place.read domains settings asChild (given ctx)
      options (inside.action place domains settings)) s
    let told := toldSpan domains settings described (given ctx) s left.1
    inside.events place domains settings
        (some (Interceptor.contextInside described (given ctx) s))
        (Interceptor.inside described (given ctx) s) ++
      .closed told (after.2.finished.drop left.2.finished.length) ::
        (next after.1).events place domains settings ctx after.2

end Work

/-! ## What an invocation leaves alone -/

namespace Interceptor

variable {ε : Type} (options : CommandOptions) (ctx : Option Context) (s : Session ε)

/-- To open a span changes the identifiers only. -/
theorem start_ids_only : ∃ ids, (start options ctx s).2 = { s with ids } := by
  unfold start Session.startSpan
  cases s.provider.filter (!·.isDisabled) with
  | none => exact ⟨s.ids, rfl⟩
  | some p => exact ⟨_, rfl⟩

theorem inside_same :
    (inside options ctx s).notes = s.notes ∧ (inside options ctx s).keeps = s.keeps ∧
      (inside options ctx s).finished = s.finished := by
  obtain ⟨ids, hstart⟩ := start_ids_only options ctx s
  unfold inside
  rw [hstart]
  exact ⟨rfl, rfl, rfl⟩

end Interceptor

/-! ## One step -/

namespace Usage

theorem recordedIn_append (events more : List Event) :
    recordedIn (events ++ more) = more.foldl Event.recorded (recordedIn events) :=
  List.foldl_append

theorem writesIn_changed (earlier : List Event) (client : Nat) (change : Change) :
    ofWrites (writesIn (earlier ++ [.changed client change])) =
      change.apply (ofWrites (writesIn earlier)) := by
  rw [writesIn, writesIn, recordedIn_append, List.foldl_cons, List.foldl_nil]
  cases change with
  | set name value =>
      rw [Event.recorded, List.map_append, ← update_ofWrites]
      rfl
  | update facts =>
      have hfacts : (facts.map fun f => (client, f)).map Prod.snd = facts := by
        rw [List.map_map]
        exact List.map_id facts
      rw [Event.recorded, List.map_append, hfacts, ← update_ofWrites]
      rfl
  | clear => exact ofWrites_nil

theorem writesIn_read (earlier : List Event) (client : Nat) (found : Usage) :
    writesIn (earlier ++ [.read client found]) = writesIn earlier := by
  rw [writesIn, writesIn, recordedIn_append]
  rfl

theorem writesIn_closed (earlier : List Event) (told : Span) (ended : List Span) :
    writesIn (earlier ++ [.closed told ended]) = writesIn earlier := by
  rw [writesIn, writesIn, recordedIn_append]
  rfl

variable {ε : Type} {place : Place ε} {settings : Settings} {s s' s'' : Session ε}
  {earlier events more : List Event}

/-- While these events happened, the session went from one state to another one. -/
structure Passes (place : Place ε) (settings : Settings) (s s' : Session ε)
    (earlier events : List Event) : Prop where
  usage : place.read s'.notes = ofWrites (writesIn (earlier ++ events))
  keeps : s'.keeps = s.keeps
  finished : s'.finished = s.finished ++ events.flatMap Event.ended
  follows : s.keeps = true → ∀ before e after, events = before ++ e :: after →
    e.Follows settings (earlier ++ before)

theorem Passes.refl (h : place.read s.notes = ofWrites (writesIn earlier)) :
    Passes place settings s s earlier [] where
  usage := by rw [List.append_nil]; exact h
  keeps := rfl
  finished := (List.append_nil _).symm
  follows _ before e after hnil := by cases before <;> cases hnil

theorem Passes.trans (h : Passes place settings s s' earlier events)
    (h' : Passes place settings s' s'' (earlier ++ events) more) :
    Passes place settings s s'' earlier (events ++ more) where
  usage := by rw [← List.append_assoc]; exact h'.usage
  keeps := h'.keeps.trans h.keeps
  finished := by rw [h'.finished, h.finished, List.flatMap_append, List.append_assoc]
  follows hkeeps before e after hsplit := by
    have hkeeps' : s'.keeps = true := h.keeps.trans hkeeps
    -- The event is one of the second part, or of the first one, or the second part begins with it.
    rcases List.append_eq_append_iff.1 hsplit with ⟨t, hbefore, hmore⟩ | ⟨t, hevents, htail⟩
    · rw [hbefore, ← List.append_assoc]
      exact h'.follows hkeeps' t e after hmore
    · cases t with
      | nil =>
          have hlast := h'.follows hkeeps' [] e after htail.symm
          rwa [List.append_nil, hevents, List.append_nil] at hlast
      | cons d t =>
          cases htail
          exact h.follows hkeeps before e t hevents

theorem read_inside (h : place.read s.notes = ofWrites (writesIn earlier))
    (options : CommandOptions) (ctx : Option Context) :
    place.read (Interceptor.inside options ctx s).notes = ofWrites (writesIn earlier) := by
  rw [(Interceptor.inside_same options ctx s).1, h]

/-- What happens inside a span happens to the session outside. -/
theorem Passes.of_inside {options : CommandOptions} {ctx : Option Context}
    (h : Passes place settings (Interceptor.inside options ctx s) s' earlier events) :
    Passes place settings s s' earlier events := by
  obtain ⟨-, hkeeps, hfinished⟩ := Interceptor.inside_same options ctx s
  exact ⟨h.usage, h.keeps.trans hkeeps, hfinished ▸ h.finished,
    fun hs => h.follows (hkeeps.trans hs)⟩

/-- One event, which follows from the earlier ones. -/
theorem Passes.single {e : Event}
    (husage : place.read s'.notes = ofWrites (writesIn (earlier ++ [e])))
    (hkeeps : s'.keeps = s.keeps) (hfinished : s'.finished = s.finished ++ e.ended)
    (hfollows : s.keeps = true → e.Follows settings earlier) :
    Passes place settings s s' earlier [e] where
  usage := husage
  keeps := hkeeps
  finished := by rw [hfinished, List.flatMap_singleton]
  follows hkeeps before d after hsplit := by
    cases before with
    | nil =>
        cases hsplit
        rw [List.append_nil]
        exact hfollows hkeeps
    | cons c rest => cases rest <;> cases hsplit

theorem Passes.change (settings : Settings) (h : place.read s.notes = ofWrites (writesIn earlier))
    (client : Nat) (change : Change) :
    Passes place settings s (Work.changed place change s) earlier [.changed client change] := by
  refine .single ?_ rfl (List.append_nil _).symm fun _ => trivial
  rw [writesIn_changed, ← h]
  exact place.read_write _ _

theorem Passes.read (settings : Settings) (h : place.read s.notes = ofWrites (writesIn earlier))
    (client : Nat) :
    Passes place settings s s earlier [.read client (place.read s.notes)] := by
  refine .single ?_ rfl (List.append_nil _).symm fun _ => h
  rw [writesIn_read]
  exact h

end Usage

/-! ## One invocation -/

namespace Usage

variable {ε : Type} {place : Place ε} {settings : Settings} {s left : Session ε}
  {o : Except Failure Answer} {earlier : List Event}

/-- Whatever is logged on the way, the span ends if the usage has a normal form, and otherwise
nothing more happens. -/
theorem after_invocation_cases (domains : List Domain) (settings : Settings)
    (read : Usage × ε → Usage) {asChild : Bool} {options : CommandOptions} {ctx : Option Context}
    {act : Action (Session ε)}
    (hleft : Interceptor.inner (Course.optionsOf asChild options) ctx act s = (o, left)) :
    ∃ records,
      (∃ used, normalize settings (read left.notes) = .ok used ∧
        (outcomeOf (Course.invocation read domains settings asChild ctx options act) s).2 =
          ((left.withCurrent s.current).log records).endSpan
            ((toldSpan domains settings (Course.optionsOf asChild options) ctx s o).setAttributes
              used.value)) ∨
      (∃ g, normalize settings (read left.notes) = .error g ∧
        (outcomeOf (Course.invocation read domains settings asChild ctx options act) s).2 =
          (left.withCurrent s.current).log records) := by
  rw [Course.invocation_eq, Interceptor.outcomeOf_chain, Interceptor.outcomeOf_run,
    ← Interceptor.inner, hleft]
  let after := Interceptor.settled domains settings (left.withCurrent s.current) o
  have hread : read after.notes = read left.notes := rfl
  cases hnormal : normalize settings (read left.notes) with
  | ok used =>
      refine ⟨(Interceptor.told domains settings o).records ++ used.records,
        .inl ⟨used, rfl, ?_⟩⟩
      simp only []
      rw [Interceptor.outcomeOf_leave_ok domains _ _ (hread ▸ hnormal), Interceptor.settled,
        Session.log_log]
      rfl
  | error g =>
      refine ⟨(Interceptor.told domains settings o).records, .inr ⟨g, rfl, ?_⟩⟩
      simp only []
      rw [Interceptor.outcomeOf_leave_error domains _ _ (hread ▸ hnormal)]
      rfl

theorem takes_of_putAll {limits : Limits} {named : Attributes}
    (h : ∀ fact ∈ named, Span.Takes settings limits fact)
    (hcount : ∀ n, settings.countLimit = some n → ((putAll [] named).length : Int) ≤ n) :
    normalize settings (ofWrites (facts named)) =
      .ok ⟨(putAll [] named).map fun a => (a.1, a.2.carried), []⟩ := by
  rw [ofWrites_facts]
  exact Span.normalize_of_takes (nodup_keys_putAll List.nodup_nil)
    (fun a ha => h a ((mem_putAll ha).resolve_left List.not_mem_nil)) hcount

theorem follows_closed {told : Span} {used : Logged Attributes}
    (htidy : Span.Tidy told.attributes)
    (hused : normalize settings (ofWrites (writesIn earlier)) = .ok used) :
    (Event.closed told [told.setAttributes used.value]).Follows settings earlier := by
  intro hrecording named hnamed htakes hcount hroom
  rw [hnamed, takes_of_putAll htakes hcount] at hused
  obtain rfl := Except.ok.inj hused
  obtain ⟨found, hsame⟩ := Span.setAttributes_eq told
    ((putAll [] named).map fun a => (a.1, a.2.carried))
  refine ⟨_, rfl, by rw [hsame], by rw [hsame], fun k hk => ?_⟩
  exact Span.lookup_setAttributes_carried hrecording htidy htakes hroom hk

theorem follows_unclosed {told : Span} {ended : List Span} {g : Fault}
    (hfault : normalize settings (ofWrites (writesIn earlier)) = .error g) :
    (Event.closed told ended).Follows settings earlier := by
  intro hrecording named hnamed htakes hcount hroom
  rw [hnamed, takes_of_putAll htakes hcount] at hfault
  cases hfault

section Closing

variable {told : Span} {current : Context} {records : List Log.Record}
  (h : place.read left.notes = ofWrites (writesIn earlier))

include h

/-- The span takes the usage in and ends. -/
theorem Passes.endSpan {used : Logged Attributes} {after : Session ε}
    (htidy : Span.Tidy told.attributes)
    (hused : normalize settings (place.read left.notes) = .ok used)
    (hafter : after =
      ((left.withCurrent current).log records).endSpan (told.setAttributes used.value)) :
    Passes place settings left after earlier
      [.closed told (after.finished.drop left.finished.length)] := by
  subst hafter
  rw [h] at hused
  have hfinished := Session.finished_endSpan ((left.withCurrent current).log records)
    (told.setAttributes used.value)
  have hended := (congrArg (List.drop left.finished.length) hfinished).trans List.drop_left
  refine .single ?_ (Session.keeps_endSpan _ _) ?_ fun hkeeps hrecording => ?_
  · rw [writesIn_closed]
    exact h
  · rw [hended]
    exact hfinished
  · obtain ⟨found, hsame⟩ := Span.setAttributes_eq told used.value
    have hstill : ((left.withCurrent current).log records).keeps = true := hkeeps
    have hrecords : (told.setAttributes used.value).isRecording = true := by
      rw [hsame]
      exact hrecording
    rw [hended, hrecords, hstill]
    exact follows_closed htidy hused hrecording

/-- The span cannot take the usage in, and does not end. -/
theorem Passes.noSpan {g : Fault} {after : Session ε}
    (hfault : normalize settings (place.read left.notes) = .error g)
    (hafter : after = (left.withCurrent current).log records) :
    Passes place settings left after earlier
      [.closed told (after.finished.drop left.finished.length)] := by
  subst hafter
  rw [h] at hfault
  refine .single ?_ rfl ?_ fun _ => follows_unclosed hfault
  · rw [writesIn_closed]
    exact h
  · have hnone : ((left.withCurrent current).log records).finished.drop left.finished.length = [] :=
      List.drop_length
    rw [hnone]
    exact (List.append_nil _).symm

theorem Passes.close (domains : List Domain) (settings : Settings) (asChild : Bool)
    (options : CommandOptions) (ctx : Option Context) (act : Action (Session ε))
    (hleft : Interceptor.inner (Course.optionsOf asChild options) ctx act s = (o, left))
    {after : Session ε}
    (hafter : (outcomeOf (Course.invocation place.read domains settings asChild ctx options act)
      s).2 = after) :
    Passes place settings left after earlier
      [.closed (toldSpan domains settings (Course.optionsOf asChild options) ctx s o)
        (after.finished.drop left.finished.length)] := by
  have htidy := Interceptor.tidy_settledSpan domains settings o
    (Interceptor.tidy_spanOf (Course.optionsOf asChild options) ctx s)
  obtain ⟨records, ⟨used, hused, hends⟩ | ⟨g, hfault, hends⟩⟩ :=
    after_invocation_cases domains settings place.read hleft
  · exact .endSpan h htidy hused (hafter.symm.trans hends)
  · exact .noSpan h hfault (hafter.symm.trans hends)

end Closing

end Usage

/-! ## A whole run -/

/-- Every work passes through its events, by induction on it: what it does next begins where its
first step has led, with the events so far as the earlier ones. -/
theorem Work.passes {ε : Type} (place : Usage.Place ε) (domains : List Domain)
    (settings : Settings) (w : Work) (ctx : Option Context) {s : Session ε}
    {earlier : List Usage.Event}
    (h : place.read s.notes = Usage.ofWrites (Usage.writesIn earlier)) :
    Usage.Passes place settings s (outcomeOf (w.action place domains settings ctx) s).2 earlier
      (w.events place domains settings ctx s) := by
  induction w generalizing ctx s earlier with
  | finish outcome =>
      rw [Work.action, outcomeOf_conclude]
      exact .refl h
  | step client change next ih =>
      have hstep := Usage.Passes.change settings h client change
      rw [Work.action, outcomeOf_bind_ok (outcomeOf_modify ..)]
      exact hstep.trans (ih ctx hstep.usage)
  | read client next ih =>
      have hstep := Usage.Passes.read settings h client
      rw [Work.action, outcomeOf_bind_ok (outcomeOf_get _)]
      exact hstep.trans (ih _ ctx hstep.usage)
  | invoke asChild options given inside next ihi ihn =>
      let described := Course.optionsOf asChild options
      have hinside := (ihi (some (Interceptor.contextInside described (given ctx) s))
        (Usage.read_inside h described (given ctx))).of_inside
      have hclose := Usage.Passes.close hinside.usage domains settings asChild options (given ctx)
        (inside.action place domains settings) rfl rfl
      rw [Work.action, outcomeOf_bind_ok (outcomeOf_attempt ..), Work.events]
      exact hinside.trans (hclose.trans (ihn _ ctx hclose.usage))

namespace Work

open Usage

variable {ε : Type}

/-- In a run that begins with nothing recorded, each event follows from the earlier ones, the spans
that end are those of its invocations, and what is recorded in the end is what the writes since the
latest clearance come to. Another run in which each client records the same, and none what another
one records, comes to the same usage but for the order. -/
theorem shared_usage (place : Place ε) (domains : List Domain) (settings : Settings) (w : Work)
    (ctx : Option Context) {s : Session ε} (hempty : place.read s.notes = [])
    (hkeeps : s.keeps = true) :
    (∀ before e after, w.events place domains settings ctx s = before ++ e :: after →
      e.Follows settings before) ∧
      (outcomeOf (w.action place domains settings ctx) s).2.finished =
        s.finished ++ (w.events place domains settings ctx s).flatMap Event.ended ∧
      place.read (outcomeOf (w.action place domains settings ctx) s).2.notes =
        ofWrites (writesIn (w.events place domains settings ctx s)) ∧
      ∀ (w' : Work) (ctx' : Option Context) (s' : Session ε), place.read s'.notes = [] →
        SamePrograms (recordedIn (w.events place domains settings ctx s))
          (recordedIn (w'.events place domains settings ctx' s')) →
        DisjointNames (recordedIn (w.events place domains settings ctx s)) →
        (place.read (outcomeOf (w.action place domains settings ctx) s).2.notes).Perm
          (place.read (outcomeOf (w'.action place domains settings ctx') s').2.notes) := by
  have hbegin : place.read s.notes = ofWrites (writesIn []) := hempty.trans ofWrites_nil.symm
  have hrun := w.passes place domains settings ctx hbegin
  refine ⟨hrun.follows hkeeps, hrun.finished, hrun.usage, fun w' ctx' s' hempty' hsame hapart => ?_⟩
  have hbegin' : place.read s'.notes = ofWrites (writesIn []) := hempty'.trans ofWrites_nil.symm
  have hother := w'.passes place domains settings ctx' hbegin'
  rw [hrun.usage, hother.usage]
  exact ofWrites_perm hsame hapart

/-- A client records a target, and a release another one and its stages; it runs a build, which
records stages anew. Later the usage is read off and cleared, and two clients record again. -/
def releaseWork : Work :=
  .step 1 (.set (.text "target") (.text "test")) <|
  .invoke false { path := "cmdtrace release" } id
    (.step 2 (.update [(.text "stages", .int 1), (.text "target", .text "prod")]) <|
     .invoke true { path := "cmdtrace release build" } id
      (.step 3 (.set (.text "stages") (.tuple [.int 1, .int 2])) <|
       .finish (.ok .nothing)) fun _ =>
     .finish (.ok .nothing)) fun _ =>
  .read 1 fun _ =>
  .step 1 .clear <|
  .step 2 (.set (.text "late") (.bool true)) <|
  .step 3 (.set (.text "later") (.int 7)) <|
  .finish (.ok .nothing)

/-- The two clients record in the other order, and nothing has happened before. -/
def reorderedWork : Work :=
  .step 3 (.set (.text "later") (.int 7)) <|
  .step 2 (.set (.text "late") (.bool true)) <|
  .finish (.ok .nothing)

/-- The span of the release, before usage is written on it. -/
def releaseTold : Span where
  context := ⟨1, 1, true⟩
  parent := none
  name := "cmd.release"
  scope := "cmdtrace.cli"
  scopeVersion := usualInstrumentation.scopeVersion
  limits := ⟨some Limits.usualCount, none⟩
  isRecording := true
  attributes := [("cmd.args.count", .int 0)]

/-- What has been recorded by the time that the release is over. -/
def releaseFacts : Attributes :=
  [("target", .text "test"), ("stages", .int 1), ("target", .text "prod"),
    ("stages", .tuple [.int 1, .int 2])]

theorem takes_releaseFacts :
    ∀ fact ∈ releaseFacts, Span.Takes usualSettings releaseTold.limits fact := by
  have hopen : ∀ fact ∈ releaseFacts, isSensitive usualRedactKeys fact.1 = false := by
    decide +kernel
  have hnormal : ∀ fact ∈ releaseFacts, IsNormal none fact.2.carried := by
    simp only [releaseFacts, List.forall_mem_cons, Value.carried]
    exact ⟨.text fun _ h => (by cases h), .int 1, .text fun _ h => (by cases h),
      .integers (by simp [Value.isInteger]), fun _ h => (by cases h)⟩
  have htaken : ∀ fact ∈ releaseFacts, isRefused fact.2.carried = false := by decide
  exact fun fact h => ⟨fun hkey => Bool.false_ne_true
    ((hopen fact h).symm.trans (isSensitive_iff.2 hkey)), hnormal fact h, hnormal fact h,
    htaken fact h⟩

theorem room_releaseFacts :
    Span.Room releaseTold.limits
      (releaseTold.attributes.map Prod.fst ++ releaseFacts.map Prod.fst) := by
  refine Span.room_of_length_le ?_
  rintro _ ⟨⟩
  decide

theorem events_releaseWork : ∃ build ended told ended' found,
    releaseWork.events (Place.process Unit) wellKnownDomains usualSettings none Session.recording =
      [.changed 1 (.set (.text "target") (.text "test")),
       .changed 2 (.update [(.text "stages", .int 1), (.text "target", .text "prod")]),
       .changed 3 (.set (.text "stages") (.tuple [.int 1, .int 2])),
       .closed build ended, .closed told ended', .read 1 found, .changed 1 .clear,
       .changed 2 (.set (.text "late") (.bool true)),
       .changed 3 (.set (.text "later") (.int 7))] ∧
      told = releaseTold := by
  have hspan : Interceptor.spanOf { path := "cmdtrace release" } none
      { Session.recording with usage := [(.text "target", .text "test")] } = releaseTold := by
    cbv
  simp only [releaseWork, Work.events, List.cons_append, List.nil_append]
  refine ⟨_, _, _, _, _, rfl, ?_⟩
  rw [toldSpan, Interceptor.inner, Work.action, outcomeOf_bind_ok (outcomeOf_modify ..),
    Work.action, outcomeOf_bind_ok (outcomeOf_attempt ..), Work.action, outcomeOf_conclude]
  exact hspan

/-- The two clients record the same in either run, each under a name of its own. -/
theorem reorderedWork_same :
    SamePrograms [(2, (Value.text "late", Value.bool true)), (3, (.text "later", .int 7))]
        (recordedIn (reorderedWork.events (Place.process Unit) wellKnownDomains usualSettings none
          Session.recording)) ∧
      DisjointNames [(2, (Value.text "late", Value.bool true)), (3, (.text "later", .int 7))] := by
  have hevents : recordedIn (reorderedWork.events (Place.process Unit) wellKnownDomains
      usualSettings none
      Session.recording) = [(3, .text "later", .int 7), (2, .text "late", .bool true)] := rfl
  refine ⟨fun c => ?_, by simp [DisjointNames, sameName, Value.same]⟩
  rw [hevents]
  by_cases h2 : 2 = c
  · subst h2
    rfl
  · by_cases h3 : 3 = c
    · subst h3
      rfl
    · simp [h2, h3]

/-- The release ends with what was recorded before it, by it and by its build, and without what was
recorded later. -/
theorem releaseWork_shared :
    ∃ release ∈ (outcomeOf (releaseWork.action (Place.process Unit) wellKnownDomains
        usualSettings none)
        Session.recording).2.finished,
      release.name = "cmd.release" ∧
      release.attributes.lookup "target" = some (.text "prod") ∧
      release.attributes.lookup "stages" = some (.list [.int 1, .int 2]) ∧
      release.attributes.lookup "late" = none ∧
      (Place.process Unit).read (outcomeOf (releaseWork.action (Place.process Unit)
        wellKnownDomains usualSettings none) Session.recording).2.notes =
          [(.text "late", .bool true), (.text "later", .int 7)] ∧
      ((Place.process Unit).read (outcomeOf (releaseWork.action (Place.process Unit)
        wellKnownDomains usualSettings none) Session.recording).2.notes).Perm
          ((Place.process Unit).read (outcomeOf (reorderedWork.action (Place.process Unit)
            wellKnownDomains usualSettings none) Session.recording).2.notes) := by
  obtain ⟨hfollows, hfinished, husage, hperm⟩ :=
    shared_usage (Place.process Unit) wellKnownDomains usualSettings releaseWork none
      (s := Session.recording) rfl rfl
  obtain ⟨build, ended, _, ended', found, hevents, rfl⟩ := events_releaseWork
  rw [hevents] at hfollows hfinished husage hperm
  obtain ⟨release, hrelease, -, hname, hlookup⟩ := hfollows [_, _, _, _] _ _ rfl rfl
    releaseFacts rfl takes_releaseFacts (fun _ h => (by cases h)) room_releaseFacts
  refine ⟨release, ?_, hname, ?_, ?_, ?_, ?_, ?_⟩
  · rw [hfinished, hrelease]
    simp [Event.ended]
  · rw [hlookup "target" (by decide)]
    rfl
  · rw [hlookup "stages" (by decide)]
    rfl
  · rw [hlookup "late" (by decide)]
    rfl
  · exact husage.trans (ofWrites_facts [("late", .bool true), ("later", .int 7)])
  · exact hperm reorderedWork none Session.recording rfl reorderedWork_same.1 reorderedWork_same.2

end Work

end CommandTelemetry
