import CommandTelemetry.CommandLine.Invocation

/-!
# Options of the program itself

Some options belong to the program and not to its commands. They may stand anywhere among the words
of a command line, up to the words that a command hands on: behind the end of the options, and
behind the argument of a command after which every word is handed on whatever it looks like.
-/

namespace CommandTelemetry.CommandLine

variable {α : Type}

/-- What is known about the command while its words are passed over. -/
inductive Progress (α : Type) where
  /-- A command of one of these names may follow. -/
  | choosing (entries : List (Entry α))
  /-- A command with these options lacks so many words before it hands on all others. -/
  | handingOn (options : List Parameter) (lacking : Nat)
  /-- A command that hands on no words. -/
  | settled
  /-- No command can follow. -/
  | lost

namespace Progress

/-- How many words a command takes before it hands on all others. -/
def wordsBeforeRest : List Parameter → Option Nat
  | [] => none
  | p :: rest =>
    match p.standing with
    | some .positional | some .either => (wordsBeforeRest rest).map (· + 1)
    | some .restWords => if p.takesHyphens then some 0 else none
    | _ => wordsBeforeRest rest

def ofCommand (c : Command α) : Progress α :=
  match wordsBeforeRest c.parameters with
  | some n => handingOn (c.parameters.filter (·.slot = .named)) n
  | none => settled

/-- What is known after a word that is no option. -/
def passWord (p : Progress α) (w : String) : Progress α :=
  match p with
  | choosing entries =>
    match entries.find? (·.answersTo w) with
    | some (.command _ _ c) => ofCommand c
    | some (.group _ _ inner) => choosing inner
    | none => lost
  | handingOn options n => handingOn options (n - 1)
  | p => p

/-- All further words are handed on. -/
def handsOn : Progress α → Bool
  | handingOn _ 0 => true
  | _ => false

/-- An option of the command takes the next word as its value. -/
def takesNext (p : Progress α) (name : String) (value : Option String) : Bool :=
  match p with
  | handingOn options _ => value.isNone && options.any fun o => o.answersTo name && o.kind ≠ .switch
  | _ => false

end Progress

namespace Binding

/-- Binds the program's own options; the words of the command are left in order. -/
def scanLeading (progress : Progress α) (b : Binding) :
    List String → Except Refusal (Binding × List String)
  | [] => .ok (b, [])
  | w :: words =>
    if w = endOfOptions || progress.handsOn then .ok (b, w :: words)
    else if hasHyphen w then
      let (name, value) := splitAssignment w
      match b.parameter? name with
      | some p =>
        if p.kind = .switch then
          match b.update? name (·.addSwitch name value) with
          | some (.ok b) => scanLeading progress b words
          | some (.error e) => .error e
          | none => .error .unknownOption
        else
          match _h : takeValue p value words with
          | .error e => .error e
          | .ok (v, rest) =>
            match b.update? name (·.addNamed name v) with
            | some (.ok b) => scanLeading progress b rest
            | some (.error e) => .error e
            | none => .error .unknownOption
      | none =>
        match words with
        | next :: rest =>
          if progress.takesNext name value then
            (scanLeading progress b rest).map fun r => (r.1, w :: next :: r.2)
          else (scanLeading progress b (next :: rest)).map fun r => (r.1, w :: r.2)
        | [] => .ok (b, [w])
    else
      (scanLeading (progress.passWord w) b words).map fun r => (r.1, w :: r.2)
termination_by words => words.length
decreasing_by
  all_goals simp only [List.length_cons]
  all_goals first
    | exact Nat.lt_succ_of_le (length_of_takeValue _h)
    | omega

/-- Binds the program's own options, and leaves the words of the command. -/
def ofLeading (env : Environment) (ps : List Parameter) (g : Grammar α) (words : List String) :
    Except Refusal (Binding × List String) := do
  let (b, rest) ← scanLeading (.choosing g.entries) (ofParameters ps) words
  let b := b.map (Argument.withVariable env)
  b.forM Argument.check
  return (b, rest)

end Binding

end CommandTelemetry.CommandLine
