import CommandTelemetry.Proofs.Classification

/-!
# Exit codes and categories

A failure is classified twice, and the two classifications are written down apart: once as an exit
code for whoever started the program, once as a description for whoever reads the traces. Both look
through the same graph for the same four shapes, and what is proved here is that they never name
different ones. The parser's own failures are the exception, since exit codes are decided for them
before anything is searched.

A category can be read off either side again: off the exit code by a table, and off the description
because its wording tells the four apart. Service descriptions end in a number and no other does,
which holds for every label that a table of domains may contain.

A failure that comes up while another is handled belongs to the category of the earlier one, as long
as it is of none of the four shapes itself, since the search reaches exactly the same shapes.
-/

namespace CommandTelemetry

/-- The exit code that stands for a category; unknown failures have none of their own. -/
def ErrorCategory.exitCode? : ErrorCategory → Option ExitCode
  | service => some .serviceError
  | deployment => some .deploymentError
  | tool => some .toolError
  | auth => some .authError
  | unknown => none

/-- The category that an exit code stands for. -/
def ExitCode.category : ExitCode → ErrorCategory
  | serviceError => .service
  | deploymentError => .deployment
  | toolError => .tool
  | authError => .auth
  | _ => .unknown

theorem ExitCode.category_eq_iff {c : ErrorCategory} {code : ExitCode}
    (h : c.exitCode? = some code) (e : ExitCode) : e = code ↔ e.category = c := by
  cases c <;> cases h <;> cases e <;> simp [category]

namespace Failure

/-- The exit code that follows from the class of a failure alone. -/
def Node.generalExitCode (n : Node) : ExitCode :=
  if n.isA "ValueError" || n.isA "TypeError" then .validationError else .generalError

/-- The failure was not raised by the parser. -/
def IsForeign (f : Failure) : Prop := parserHome.toList.isPrefixOf f.node.home.toList = false

theorem exitCode_of_isForeign {f : Failure} (h : f.IsForeign) :
    f.exitCode =
      if (f.findNode? Node.isService).isSome then .serviceError
      else if (f.findNode? Node.isDeployment).isSome then .deploymentError
      else if (f.findNode? Node.isTool).isSome then .toolError
      else if (f.findNode? Node.isAuth).isSome then .authError
      else f.node.generalExitCode := by
  rw [exitCode, if_neg (by rw [h]; exact Bool.false_ne_true)]
  rfl

/-- The category of a failure decides its exit code, except where it is unknown. -/
theorem exitCode_eq {f : Failure} (h : f.IsForeign) (domains : List Domain) :
    f.exitCode = ((f.classify domains).category.exitCode?).getD f.node.generalExitCode := by
  rw [exitCode_of_isForeign h, category_classify]
  repeat' split
  all_goals rfl

theorem Node.category_generalExitCode (n : Node) : n.generalExitCode.category = .unknown := by
  unfold Node.generalExitCode
  split <;> rfl

theorem category_exitCode {f : Failure} (h : f.IsForeign) (domains : List Domain) :
    f.exitCode.category = (f.classify domains).category := by
  rw [exitCode_eq h domains]
  cases (f.classify domains).category with
  | unknown => exact Node.category_generalExitCode _
  | _ => rfl

/-! ## Failures during failures -/

theorem Linked.append {nodes more : List Node} {i j : Nat} (h : Linked nodes i j) :
    Linked (nodes ++ more) i j := by
  obtain ⟨n, hn, hj⟩ := linked_iff.1 h
  exact linked_iff.2 ⟨n, by rw [List.getElem?_append_left (lt_of_linked h), hn], hj⟩

section During

variable {f : Failure} {n : Node}

theorem leadsTo_of_leadsTo_during (hm : n.members = []) (hc : n.cause = none) {i : Nat}
    (h : (f.during n).LeadsTo i) : i = f.nodes.length ∨ f.LeadsTo i := by
  induction h with
  | refl => exact Or.inl rfl
  | @tail i j _ hlink ih =>
      obtain ⟨m, hget, hj⟩ := linked_iff.1 hlink
      by_cases hlt : i < f.nodes.length
      · have hold := ih.resolve_left (by omega)
        rw [during, List.getElem?_append_left hlt] at hget
        exact Or.inr (hold.tail (linked_iff.2 ⟨m, hget, hj⟩))
      · obtain rfl : i = f.nodes.length := by
          have := (List.getElem?_eq_some_iff.1 hget).1
          simp only [during, List.length_append, List.length_singleton] at this
          omega
        rw [during, List.getElem?_concat_length] at hget
        obtain rfl := Option.some.inj hget
        have hmembers : Node.members { n with context := some f.root } = [] := hm
        rw [hmembers, List.nil_append, mem_origin_iff] at hj
        rcases hj with hj | ⟨-, -, hj⟩
        · exact absurd (hc.symm.trans hj) (by simp)
        · obtain rfl := Option.some.inj hj
          exact Or.inr .refl

theorem leadsTo_during (hc : n.cause = none) (hs : n.suppressContext = false) {i : Nat}
    (h : f.LeadsTo i) : (f.during n).LeadsTo i := by
  have hroot : Linked (f.during n).nodes (f.during n).root f.root :=
    .context (n := { n with context := some f.root }) List.getElem?_concat_length hc hs rfl
  exact .head hroot (Relation.ReflTransGen.mono (fun _ _ hl => Linked.append hl) _ _ h)

/-- The search finds something in a failure that came up during `f` exactly if it does in `f`. -/
theorem findNode?_during_isSome {wanted : Node → Bool} (hm : n.members = [])
    (hc : n.cause = none) (hs : n.suppressContext = false)
    (hw : wanted { n with context := some f.root } = false) :
    ((f.during n).findNode? wanted).isSome = (f.findNode? wanted).isSome := by
  rw [Bool.eq_iff_iff, findNode?_isSome_iff, findNode?_isSome_iff]
  constructor
  · rintro ⟨i, m, hlead, hget, hwm⟩
    by_cases hlt : i < f.nodes.length
    · rw [during, List.getElem?_append_left hlt] at hget
      exact ⟨i, m, (leadsTo_of_leadsTo_during hm hc hlead).resolve_left (by omega), hget, hwm⟩
    · obtain rfl : i = f.nodes.length := by
        have := (List.getElem?_eq_some_iff.1 hget).1
        simp only [during, List.length_append, List.length_singleton] at this
        omega
      rw [during, List.getElem?_concat_length] at hget
      obtain rfl := Option.some.inj hget
      rw [hw] at hwm
      cases hwm
  · rintro ⟨i, m, hlead, hget, hwm⟩
    refine ⟨i, m, leadsTo_during hc hs hlead, ?_, hwm⟩
    rw [during, List.getElem?_append_left (List.getElem?_eq_some_iff.1 hget).1, hget]

end During

theorem node_during (f : Failure) (n : Node) :
    (f.during n).node = { n with context := some f.root } := by
  rw [node, during, List.getElem?_concat_length]
  rfl

/-- A fault of the library that comes up during a failure leaves its category as it was. -/
theorem category_during_ofFault (domains : List Domain) (f : Failure) (g : Fault) :
    ((f.during (Node.ofFault g)).classify domains).category = (f.classify domains).category := by
  simp only [category_classify]
  rw [findNode?_during_isSome rfl rfl rfl rfl, findNode?_during_isSome rfl rfl rfl rfl,
    findNode?_during_isSome rfl rfl rfl rfl, findNode?_during_isSome rfl rfl rfl rfl]

theorem isForeign_during_ofFault (f : Failure) (g : Fault) :
    (f.during (Node.ofFault g)).IsForeign := by
  rw [IsForeign, node_during]
  exact (by decide : parserHome.toList.isPrefixOf Node.generalHome.toList = false)

theorem isOrdinary_ofFault (g : Fault) : (Node.ofFault g).isOrdinary = true := by
  have h : ∀ k : FaultKind, (ancestors k.name).contains "Exception" = true := by
    intro k
    cases k <;> decide
  exact h g.kind

theorem isOrdinary_during_ofFault (f : Failure) (g : Fault) :
    (f.during (Node.ofFault g)).isOrdinary = true := by
  rw [isOrdinary, node_during]
  exact isOrdinary_ofFault g

end Failure

/-! ## Descriptions -/

/-- The category that a description belongs to. -/
def ErrorCategory.ofDescription (d : String) : ErrorCategory :=
  if d = (Failure.ofDeployment none).code then .deployment
  else if d = (Failure.ofAuth none).code then .auth
  else if d = Failure.unclassified.code then .unknown
  else if "tool.".toList.isPrefixOf d.toList then .tool
  else .service

theorem getLast?_repr (m : Nat) :
    ∃ c, m.repr.toList.getLast? = some c ∧ c.isDigit = true := by
  rw [Nat.toList_repr]
  exact ⟨_, List.getLast?_eq_some_getLast Nat.toDigits_ne_nil,
    Nat.isDigit_of_mem_toDigits (by decide) (by decide) (List.getLast_mem _)⟩

theorem getLast?_toString (n : Int) :
    ∃ c, (toString n).toList.getLast? = some c ∧ c.isDigit = true := by
  cases n with
  | ofNat m => exact getLast?_repr m
  | negSucc m =>
      obtain ⟨c, hc, hd⟩ := getLast?_repr (m + 1)
      refine ⟨c, ?_, hd⟩
      change ("-" ++ (m + 1).repr).toList.getLast? = some c
      rw [String.toList_append, List.getLast?_append, hc]
      rfl

/-- What ends in a number is no text that ends otherwise. -/
theorem append_toString_ne {s d : String} {n : Int} {c : Char}
    (hc : d.toList.getLast? = some c) (hd : c.isDigit = false) : s ++ toString n ≠ d := by
  rintro rfl
  obtain ⟨c', hc', hd'⟩ := getLast?_toString n
  rw [String.toList_append, List.getLast?_append, hc'] at hc
  obtain rfl : c' = c := Option.some.inj hc
  rw [hd] at hd'
  cases hd'

theorem ne_of_toList_cons {s d : String} {c : Char} {rest : List Char}
    (hs : s.toList = c :: rest) (hd : d.toList.head? ≠ some c) : s ≠ d := by
  rintro rfl
  exact hd (by rw [hs]; rfl)

theorem ofDescription_service (domains : List Domain) (errorCode : String)
    (response : Option Failure.Response) :
    ErrorCategory.ofDescription (Failure.ofService domains errorCode response).code =
      .service := by
  obtain ⟨label, n, hcode⟩ : ∃ (label : String) (n : Int),
      (Failure.ofService domains errorCode response).code =
        "service." ++ label ++ "." ++ toString n := ⟨_, _, rfl⟩
  have hlist : ("service." ++ label ++ "." ++ toString n).toList =
      's' :: ("ervice." ++ label ++ "." ++ toString n).toList := by
    simp only [String.toList_append]
    rfl
  rw [hcode, ErrorCategory.ofDescription, if_neg (append_toString_ne (c := 'd') rfl rfl),
    if_neg (append_toString_ne (c := 'd') rfl rfl),
    if_neg (append_toString_ne (c := 'r') rfl rfl), if_neg]
  rw [hlist]
  exact Bool.false_ne_true

theorem ofDescription_tool (command : String) (exitCode : Int) :
    ErrorCategory.ofDescription (Failure.ofTool command exitCode).code = .tool := by
  obtain ⟨label, hcode⟩ : ∃ label : String,
      (Failure.ofTool command exitCode).code = "tool." ++ label ++ ".failed" := ⟨_, rfl⟩
  have hlist : ("tool." ++ label ++ ".failed").toList =
      't' :: 'o' :: 'o' :: 'l' :: '.' :: (label ++ ".failed").toList := by
    simp only [String.toList_append]
    rfl
  rw [hcode, ErrorCategory.ofDescription, if_neg (ne_of_toList_cons hlist (by decide)),
    if_neg (ne_of_toList_cons hlist (by decide)), if_neg (ne_of_toList_cons hlist (by decide)),
    if_pos]
  rw [hlist]
  rfl

/-- The description of a classification tells its category. -/
theorem ofDescription_classify (domains : List Domain) (f : Failure) :
    ErrorCategory.ofDescription (f.classify domains).code = (f.classify domains).category := by
  rw [Failure.classify_eq]
  cases f.decisiveShape with
  | service errorCode response => exact ofDescription_service domains errorCode response
  | tool command exitCode => exact ofDescription_tool command exitCode
  | deployment _ => exact if_pos rfl
  | auth _ => exact (by decide : ErrorCategory.ofDescription (Failure.ofAuth none).code = .auth)
  | group _ | fault _ | plain =>
      exact (by decide : ErrorCategory.ofDescription Failure.unclassified.code = .unknown)

end CommandTelemetry
