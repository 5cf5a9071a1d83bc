import CommandTelemetry.Proofs.DiscreetCommands

/-!
# Command lines that run a tool

A command line that runs a tool may be written in many ways: the directory may stand anywhere in
front of the end of the options, behind an equals sign or as a word of its own, and whatever the
command does not know is handed on to the tool. What it is read as has one form only: a tool, the
words that are handed on, and a directory or none. Commands see no more than that, so whatever is
proved of these invocations holds of all command lines that run a tool.

Options are bound by a loop over the words, whose invariant is that the tool and its words have not
been filled in yet. The positions are filled afterwards, in one go.
-/

namespace CommandTelemetry

namespace CommandLine.Binding

/-- What the options of a command line keep, the loop over its words keeps. -/
theorem scan_induction {p : Binding → Prop}
    (hswitch : ∀ b name value b', p b →
      b.update? name (·.addSwitch name value) = some (.ok b') → p b')
    (hnamed : ∀ b name value b', p b →
      b.update? name (·.addNamed name value) = some (.ok b') → p b')
    {b b' : Binding} {words : List String} {left : List Word} (hb : p b)
    (h : b.scan words = .ok (b', left)) : p b' := by
  fun_induction Binding.scan b words generalizing b' left with
  | case1 | case2 =>
      cases h
      exact hb
  | case3 b w words _ _ _ _ _ _ ih | case11 b w words _ _ ih =>
      -- The word is left for a position.
      cases hrest : b.scan words with
      | error e =>
          rw [hrest] at h
          cases h
      | ok r =>
          rw [hrest] at h
          cases h
          exact ih hb hrest
  | case4 _ _ _ _ _ _ _ _ _ _ _ _ hupdate ih => exact ih (hswitch _ _ _ _ hb hupdate) h
  | case8 _ _ _ _ _ _ _ _ _ _ _ _ _ _ _ hupdate ih => exact ih (hnamed _ _ _ _ hb hupdate) h
  | case5 | case6 | case7 | case9 | case10 => cases h

/-- A command line that is not refused passes all three passes, and nothing is missing then. -/
theorem passes_of_ofWords {env : Environment} {ps : List Parameter} {words : List String}
    {b : Binding} (h : ofWords env ps words = .ok b) :
    ∃ scanned left filled rest, (ofParameters ps).scan words = .ok (scanned, left) ∧
      scanned.fill false left = .ok (filled, rest) ∧
      b = filled.map (Argument.withVariable env) ∧ b.any Argument.isMissing = false := by
  unfold ofWords at h
  simp only [Bind.bind, Except.bind] at h
  split at h
  · cases h
  · next scanned hscan =>
      split at h
      · cases h
      · next filled hfill =>
          split at h
          · cases h
          · split at h
            · cases h
            · next hmissing =>
                split at h
                · cases h
                · cases h
                  exact ⟨scanned.1, scanned.2, filled.1, filled.2, hscan, hfill, rfl,
                    eq_false_of_ne_true hmissing⟩

theorem map_withVariable_of_none {b : Binding} (h : ∀ a ∈ b, a.parameter.variableName = none)
    (env : Environment) : b.map (Argument.withVariable env) = b := by
  refine (List.map_congr_left fun a ha => ?_).trans (List.map_id b)
  unfold Argument.withVariable
  rw [h a ha]
  split
  · next hname => cases hname
  · rfl

end CommandLine.Binding

namespace Program

open CommandLine

variable {ε : Type}

def directoryName : String := "--cwd"

def directoryTokens (directory : Option String) : List Token :=
  (directory.map (.byName directoryName)).toList

/-- How a tool, its words and a directory are bound. -/
def toolBinding (tool : String) (words : List String) (directory : Option String) : Binding :=
  [⟨toolParameter, [.byPosition tool]⟩, ⟨wordsParameter, words.map .byPosition⟩,
   ⟨directoryParameter, directoryTokens directory⟩]

/-- The invocation that runs a tool with these words in a directory. -/
def toolInvocation (tool : String) (words : List String) (directory : Option String) :
    Invocation (Behaviour ε) where
  path := ["exec"]
  target := .command execCommand
  binding := toolBinding tool words directory

/-! ## Options -/

theorem answersTo_toolParameter (name : String) : toolParameter.answersTo name = false := rfl

theorem answersTo_wordsParameter (name : String) : wordsParameter.answersTo name = false := rfl

theorem answersTo_directoryParameter (name : String) :
    directoryParameter.answersTo name = (name == directoryName) := by
  have hname : directoryParameter.answersTo name = ([directoryName].contains name || false) := rfl
  rw [hname, Bool.or_false, List.contains_cons, List.contains_nil, Bool.or_false]

/-- The parameters while options are bound: no position is filled. -/
def scannedBinding (directory : Option String) : Binding :=
  [⟨toolParameter, []⟩, ⟨wordsParameter, []⟩, ⟨directoryParameter, directoryTokens directory⟩]

theorem update?_scannedBinding {name : String} {change : Argument → Except Refusal Argument}
    {directory : Option String} {b : Binding}
    (h : (scannedBinding directory).update? name change = some (.ok b)) :
    name = directoryName ∧ ∃ a, change ⟨directoryParameter, directoryTokens directory⟩ = .ok a ∧
      b = [⟨toolParameter, []⟩, ⟨wordsParameter, []⟩, a] := by
  unfold scannedBinding at h
  rw [Binding.update?, if_neg (by rw [answersTo_toolParameter]; exact Bool.false_ne_true),
    Binding.update?, if_neg (by rw [answersTo_wordsParameter]; exact Bool.false_ne_true),
    Binding.update?, answersTo_directoryParameter] at h
  by_cases hname : (name == directoryName) = true
  · rw [if_pos hname] at h
    cases hchange : change ⟨directoryParameter, directoryTokens directory⟩ with
    | error e =>
        rw [hchange] at h
        cases h
    | ok a =>
        rw [hchange] at h
        cases h
        exact ⟨eq_of_beq hname, a, rfl, rfl⟩
  · rw [if_neg hname] at h
    cases h

/-- A directory is given once. -/
theorem addNamed_directory {directory : Option String} {value : String} {a : Argument}
    (h : Argument.addNamed ⟨directoryParameter, directoryTokens directory⟩ directoryName value =
      .ok a) : a = ⟨directoryParameter, directoryTokens (some value)⟩ := by
  cases directory with
  | none =>
      cases h
      rfl
  | some d => cases h

theorem scan_scannedBinding {b : Binding} {words : List String} {left : List Word}
    (h : (scannedBinding none).scan words = .ok (b, left)) :
    ∃ directory, b = scannedBinding directory := by
  have hnamed : ∀ b name value b', (∃ directory, b = scannedBinding directory) →
      b.update? name (·.addNamed name value) = some (.ok b') →
      ∃ directory, b' = scannedBinding directory := by
    rintro _ name value b' ⟨directory, rfl⟩ hupdate
    obtain ⟨rfl, a, ha, rfl⟩ := update?_scannedBinding hupdate
    exact ⟨some value, by rw [addNamed_directory ha, scannedBinding]⟩
  refine Binding.scan_induction ?_ hnamed ⟨none, rfl⟩ h
  -- A switch is given as if it had a value.
  rintro _ name value b' ⟨directory, rfl⟩ hupdate
  obtain ⟨rfl, a, ha, rfl⟩ := update?_scannedBinding hupdate
  have hadd : Argument.addNamed ⟨directoryParameter, directoryTokens directory⟩ directoryName
      (value.getD "") = .ok a := by
    unfold Argument.addSwitch at ha
    cases value with
    | none => exact ha
    | some v =>
        cases hcheck : ValueKind.switch.check v with
        | error e =>
            simp only [hcheck] at ha
            cases ha
        | ok u =>
            simp only [hcheck] at ha
            exact ha
  exact ⟨some (value.getD ""), by rw [addNamed_directory hadd, scannedBinding]⟩

/-! ## Positions -/

/-- Every word that is left is handed on to the tool, whatever it looks like. -/
theorem fill_rest (directory : Option String) (words : List Word) :
    Binding.fill false [⟨wordsParameter, []⟩, ⟨directoryParameter, directoryTokens directory⟩]
        words =
      .ok ([⟨wordsParameter, (words.map (·.text)).map .byPosition⟩,
        ⟨directoryParameter, directoryTokens directory⟩], []) := by
  cases words with
  | nil => rfl
  | cons w rest =>
      have hstanding : wordsParameter.standing = some .restWords := rfl
      have hnone : (w :: rest).any (Binding.refusesWord wordsParameter) = false := by
        refine List.any_eq_false.2 fun v _ => ?_
        have hhyphens : (!wordsParameter.takesHyphens) = false := rfl
        rw [Binding.refusesWord, hhyphens, Bool.and_false]
        exact Bool.false_ne_true
      rw [Binding.fill]
      simp only [hstanding, hnone, Bool.false_eq_true, if_false, List.nil_append, List.map_map]
      rfl

theorem fill_scannedBinding {directory : Option String} {w : Word} {words left : List Word}
    {b : Binding} (h : (scannedBinding directory).fill false (w :: words) = .ok (b, left)) :
    b = toolBinding w.text (words.map (·.text)) directory := by
  have hstanding : toolParameter.standing = some .positional := rfl
  rw [scannedBinding, Binding.fill] at h
  simp only [hstanding, fill_rest] at h
  split at h
  · cases h
  · cases h
    rfl

theorem withVariable_toolBinding (env : Environment) (tool : String) (words : List String)
    (directory : Option String) :
    (toolBinding tool words directory).map (Argument.withVariable env) =
      toolBinding tool words directory := by
  refine Binding.map_withVariable_of_none ?_ env
  simp [toolBinding, toolParameter, wordsParameter, directoryParameter]

/-- Whatever the words are, a tool, the words that are handed on and a directory is what they are
bound to. -/
theorem toolBinding_of_ofWords {env : Environment} {words : List String} {b : Binding}
    (h : Binding.ofWords env [toolParameter, wordsParameter, directoryParameter] words = .ok b) :
    ∃ tool rest directory, b = toolBinding tool rest directory := by
  obtain ⟨scanned, left, filled, rest, hscan, hfill, rfl, hmissing⟩ := Binding.passes_of_ofWords h
  obtain ⟨directory, rfl⟩ := scan_scannedBinding hscan
  cases left with
  | nil =>
      -- There is no word for the tool, which is required.
      cases hfill
      cases hmissing
  | cons w words =>
      obtain rfl := fill_scannedBinding hfill
      exact ⟨w.text, words.map (·.text), directory, withVariable_toolBinding env ..⟩

/-! ## Invocations -/

theorem execCommand_ne {c : Command (Behaviour ε)} (h : c.name ≠ "exec_command") :
    c ≠ execCommand :=
  fun heq => h (heq ▸ rfl)

/-- The command that runs tools has one place in the grammar. -/
theorem path_of_execCommand {words : List String}
    (h : ((grammar (ε := ε)).locate words).command = some execCommand) :
    ((grammar (ε := ε)).locate words).path = ["exec"] := by
  unfold Grammar.locate at h ⊢
  cases words with
  | nil => cases h
  | cons w rest =>
      rw [Grammar.follow] at h ⊢
      split at h
      · cases h
      · next name aliases c hfind =>
          have hmem : (name = "exec" ∧ aliases = [] ∧ c = execCommand) ∨
              name = "version" ∧ aliases = ["v"] ∧ c = versionCommand := by
            simpa [grammar] using List.mem_of_find?_eq_some hfind
          have hname : "version_command" ≠ "exec_command" := by decide
          rcases hmem with ⟨rfl, -, -⟩ | ⟨-, -, rfl⟩
          · rfl
          · exact absurd (Option.some.inj h) (execCommand_ne hname)
      · next name aliases inner hfind =>
          -- The one group has no such command.
          have hmem : name = "telemetry" ∧ aliases = [] ∧
              inner = [.command "show" [] settingsCommand] := by
            simpa [grammar] using List.mem_of_find?_eq_some hfind
          obtain ⟨-, -, rfl⟩ := hmem
          rcases entry_of_follow h with
            ⟨name, aliases, hmem⟩ | ⟨name, aliases, inner, rest, hmem, -⟩
          · have hname : "show_telemetry_config" ≠ "exec_command" := by decide
            obtain ⟨-, -, heq⟩ := Entry.command.inj (List.mem_singleton.1 hmem)
            exact absurd heq.symm (execCommand_ne hname)
          · cases List.mem_singleton.1 hmem

/-- A command line that calls for the command that runs tools is read as its invocation with a tool,
words and a directory. -/
theorem toolInvocation_of_ofWords {env : Environment} {words : List String}
    {i : Invocation (Behaviour ε)} (hparse : Invocation.ofWords grammar env words = .ok i)
    (hexec : i.target = .command execCommand) :
    ∃ tool rest directory, i = toolInvocation tool rest directory := by
  have hcommand := target_of_ofWords hparse hexec
  have hpath := path_of_execCommand hcommand
  unfold Invocation.ofWords at hparse
  simp only [hcommand] at hparse
  split at hparse
  · cases hparse
    cases hexec
  · split at hparse
    · cases hparse
      cases hexec
    · cases hbinding : Binding.ofWords env (execCommand (ε := ε)).parameters
          ((grammar (ε := ε)).locate words).rest with
      | error e =>
          rw [hbinding] at hparse
          cases hparse
      | ok b =>
          rw [hbinding] at hparse
          cases hparse
          obtain ⟨tool, rest, directory, rfl⟩ := toolBinding_of_ofWords hbinding
          exact ⟨tool, rest, directory, by rw [hpath, toolInvocation]⟩

/-! ## Every tool has a command line -/

/-- A command line that names the directory first and ends its options there. -/
def toolLine (tool : String) (rest : List String) (directory : String) : List String :=
  "exec" :: (directoryName ++ "=" ++ directory) :: endOfOptions :: tool :: rest

theorem toList_directoryOption (directory : String) :
    (directoryName ++ "=" ++ directory).toList =
      '-' :: '-' :: 'c' :: 'w' :: 'd' :: '=' :: directory.toList := by
  rw [String.toList_append, String.toList_append]
  rfl

theorem directoryOption_ne {directory w : String} (h : w.toList[2]? ≠ some 'c') :
    directoryName ++ "=" ++ directory ≠ w := by
  rintro rfl
  rw [toList_directoryOption] at h
  exact h rfl

theorem splitAssignment_directoryOption (directory : String) :
    splitAssignment (directoryName ++ "=" ++ directory) = (directoryName, some directory) := by
  unfold splitAssignment
  rw [toList_directoryOption]
  have hspan : List.span (· ≠ '=') ('-' :: '-' :: 'c' :: 'w' :: 'd' :: '=' :: directory.toList) =
      (['-', '-', 'c', 'w', 'd'], '=' :: directory.toList) := by
    rfl
  simp only [hspan, String.ofList_toList]
  rfl

theorem scan_toolLine (tool : String) (rest : List String) (directory : String) :
    (scannedBinding none).scan (toolLine tool rest directory).tail =
      .ok (scannedBinding (some directory), (tool :: rest).map fun text => ⟨text, true⟩) := by
  have hhyphen : hasHyphen (directoryName ++ "=" ++ directory) = true := by
    rw [hasHyphen, toList_directoryOption]
    rfl
  have hparameter : (scannedBinding none).parameter? directoryName = some directoryParameter := rfl
  have hkind : directoryParameter.kind ≠ .switch := by decide
  have hupdate : (scannedBinding none).update? directoryName (·.addNamed directoryName directory) =
      some (.ok (scannedBinding (some directory))) := rfl
  rw [toolLine, List.tail_cons, Binding.scan, if_neg (directoryOption_ne (by decide)),
    if_pos hhyphen, splitAssignment_directoryOption]
  simp only [hparameter, Binding.takeValue, if_neg hkind, hupdate]
  rw [Binding.scan, if_pos rfl]

theorem fill_toolLine (tool : String) (rest : List String) (directory : Option String) :
    (scannedBinding directory).fill false ((tool :: rest).map fun text => ⟨text, true⟩) =
      .ok (toolBinding tool rest directory, []) := by
  have hstanding : toolParameter.standing = some .positional := rfl
  have hliteral : Binding.refusesWord toolParameter ⟨tool, true⟩ = false := rfl
  rw [scannedBinding, List.map_cons, Binding.fill]
  simp only [hstanding, hliteral, fill_rest, Bool.false_eq_true, if_false, List.map_map]
  rfl

theorem forM_eq_ok {α : Type} {l : List α} {f : α → Except Refusal Unit}
    (h : ∀ a ∈ l, f a = .ok ()) : l.forM f = .ok () := by
  rw [List.forM_eq_forM]
  induction l with
  | nil => rfl
  | cons a rest ih =>
      rw [List.forM_cons, h a List.mem_cons_self]
      exact ih fun b hb => h b (List.mem_cons_of_mem _ hb)

/-- Texts and paths are taken as they are. -/
theorem check_eq_ok {a : Argument} (h : a.parameter.kind = .text ∨ a.parameter.kind = .path) :
    a.check = .ok () := by
  unfold Argument.check
  rcases h with h | h
  · rw [h, if_neg ValueKind.noConfusion]
    exact forM_eq_ok fun _ _ => rfl
  · rw [h, if_neg ValueKind.noConfusion]
    exact forM_eq_ok fun _ _ => rfl

theorem check_toolBinding (tool : String) (rest : List String) (directory : Option String) :
    (toolBinding tool rest directory).forM Argument.check = .ok () := by
  refine forM_eq_ok fun a ha => check_eq_ok ?_
  simp only [toolBinding, List.mem_cons, List.not_mem_nil, or_false] at ha
  rcases ha with rfl | rfl | rfl
  · exact .inl rfl
  · exact .inl rfl
  · exact .inr rfl

theorem ofWords_toolLine (env : Environment) (tool : String) (rest : List String)
    (directory : String) :
    Invocation.ofWords (grammar (ε := ε)) env (toolLine tool rest directory) =
      .ok (toolInvocation tool rest (some directory)) := by
  unfold Invocation.ofWords
  have hplace : (grammar (ε := ε)).locate (toolLine tool rest directory) =
      ⟨["exec"], some execCommand, (toolLine tool rest directory).tail⟩ := rfl
  simp only [hplace]
  have hhelp : asksForHelp (toolLine tool rest directory) = false := by
    have hoption : helpOptions.contains (directoryName ++ "=" ++ directory) = false := by
      rw [helpOptions, List.contains_cons, List.contains_cons,
        beq_false_of_ne (directoryOption_ne (by decide)),
        beq_false_of_ne (directoryOption_ne (by decide))]
      rfl
    have hopen : directoryName ++ "=" ++ directory ≠ endOfOptions := directoryOption_ne (by decide)
    have htaken : (toolLine tool rest directory).takeWhile (· ≠ endOfOptions) =
        ["exec", directoryName ++ "=" ++ directory] := by
      rw [toolLine, List.takeWhile_cons_of_pos (by decide), List.takeWhile_cons,
        decide_eq_true hopen]
      rfl
    rw [asksForHelp, htaken, List.any_cons, List.any_cons, hoption]
    rfl
  have hbinding : Binding.ofWords env (execCommand (ε := ε)).parameters
      (toolLine tool rest directory).tail = .ok (toolBinding tool rest (some directory)) := by
    have hscan : (Binding.ofParameters (execCommand (ε := ε)).parameters).scan
        (toolLine tool rest directory).tail = _ := scan_toolLine tool rest directory
    unfold Binding.ofWords
    rw [hscan]
    simp only [Bind.bind, Except.bind, fill_toolLine, withVariable_toolBinding, check_toolBinding]
    rfl
  rw [hhelp, hbinding]
  rfl

end Program

end CommandTelemetry
