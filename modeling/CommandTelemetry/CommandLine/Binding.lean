import CommandTelemetry.Action.Options
import CommandTelemetry.CommandLine.Parameter
import CommandTelemetry.Setting.Environment

/-!
# Binding words to parameters

The words of a command line are bound in three passes: options take their values wherever they
stand, the words that are left fill the positions in order, and variables stand in for options that
were not given. Then the values are checked, and nothing may be missing or left over.

Telemetry sees of a binding which flags were given by name and how many words by position.
-/

namespace CommandTelemetry.CommandLine

/-- Where a value comes from: the words of the command line, or some other place. -/
inductive Source where
  | commandLine
  | elsewhere (place : String)
  deriving DecidableEq, Repr

/-- A value that was bound, with the name that it was found under, if it has one. -/
structure Token where
  value : String
  keyword : Option String := none
  source : Source := .commandLine
  deriving DecidableEq, Repr

namespace Token

def byPosition (value : String) : Token := { value }

def byName (name value : String) : Token := { value, keyword := some name }

/-- A value that a variable holds. -/
def fromVariable (name value : String) : Token :=
  { value, keyword := some name, source := .elsewhere "env" }

/-- The name that a value of the command line was given under. -/
def name? (t : Token) : Option String := if t.source = .commandLine then t.keyword else none

/-- The word of the command line that was given by position. -/
def word? (t : Token) : Option String :=
  if t.source = .commandLine ∧ t.keyword = none then some t.value else none

end Token

/-- A parameter with the values that were given for it. -/
structure Argument where
  parameter : Parameter
  tokens : List Token := []

namespace Argument

def givenNames (a : Argument) : List String := a.tokens.filterMap Token.name?

def words (a : Argument) : List String := a.tokens.filterMap Token.word?

def add (a : Argument) (t : Token) : Argument := { a with tokens := a.tokens ++ [t] }

/-- Adds a value under a name, which must not have been given before. -/
def addNamed (a : Argument) (name value : String) : Except Refusal Argument :=
  if a.parameter.refusesAgain a.givenNames name then .error .repeatedOption
  else .ok (a.add (.byName name value))

/-- Adds a switch, which may have a truth value behind its name. -/
def addSwitch (a : Argument) (name : String) (value : Option String) : Except Refusal Argument := do
  if let some v := value then ValueKind.switch.check v
  a.addNamed name (value.getD "")

/-- A value may be missing only where it is not required. -/
def isMissing (a : Argument) : Bool :=
  a.parameter.takesValues && a.parameter.isRequired && a.tokens.isEmpty

def check (a : Argument) : Except Refusal Unit :=
  if a.parameter.kind = .switch then .ok ()
  else a.tokens.forM fun t => a.parameter.kind.check t.value

/-- Lets a variable stand in for values that were not given. -/
def withVariable (env : Environment) (a : Argument) : Argument :=
  match a.tokens, a.parameter.variableName with
  | [], some name =>
    match env.get? name with
    | some value => a.add (.fromVariable name value)
    | none => a
  | _, _ => a

end Argument

/-- The parameters of a command with their values, in the order of declaration. -/
abbrev Binding := List Argument

namespace Binding

def ofParameters (ps : List Parameter) : Binding := ps.map ({ parameter := · })

/-- Changes the first argument that answers to a name; nothing if there is none. -/
def update? (name : String) (change : Argument → Except Refusal Argument) :
    Binding → Option (Except Refusal Binding)
  | [] => none
  | a :: rest =>
    if a.parameter.answersTo name then some ((change a).map (· :: rest))
    else (update? name change rest).map (·.map (a :: ·))

def parameter? (name : String) (b : Binding) : Option Parameter :=
  (b.find? (·.parameter.answersTo name)).map (·.parameter)

/-- The value behind an option that takes one, and the words behind it. -/
def takeValue (p : Parameter) : Option String → List String → Except Refusal (String × List String)
  | some value, words => .ok (value, words)
  | none, [] => .error .missingArgument
  | none, w :: words =>
    if looksLikeOption w && !p.takesHyphens then .error .missingArgument else .ok (w, words)

/-- What follows a value that was taken is no longer than before. -/
theorem length_of_takeValue {p : Parameter} {value : Option String} {words rest : List String}
    {v : String} (h : takeValue p value words = .ok (v, rest)) : rest.length ≤ words.length := by
  unfold takeValue at h
  split at h
  · cases h
    exact Nat.le_refl _
  · cases h
  · split at h
    · cases h
    · cases h
      exact Nat.le_succ _

/-- Binds the options among the words; the rest is left in order. -/
def scan (b : Binding) : List String → Except Refusal (Binding × List Word)
  | [] => .ok (b, [])
  | w :: words =>
    if w = endOfOptions then .ok (b, words.map fun text => { text, isLiteral := true })
    else if hasHyphen w then
      let (name, value) := splitAssignment w
      match b.parameter? name with
      | none => (b.scan words).map fun r => (r.1, { text := w } :: r.2)
      | some p =>
        if p.kind = .switch then
          match b.update? name (·.addSwitch name value) with
          | some (.ok b) => scan b words
          | some (.error e) => .error e
          | none => .error .unknownOption
        else
          match _h : takeValue p value words with
          | .error e => .error e
          | .ok (v, rest) =>
            match b.update? name (·.addNamed name v) with
            | some (.ok b) => scan b rest
            | some (.error e) => .error e
            | none => .error .unknownOption
    else (b.scan words).map fun r => (r.1, { text := w } :: r.2)
termination_by words => words.length
decreasing_by
  all_goals simp only [List.length_cons]
  all_goals first
    | exact Nat.lt_succ_self _
    | exact Nat.lt_succ_of_le (length_of_takeValue _h)

/-- A word cannot stand where a value is expected. -/
def refusesWord (p : Parameter) (w : Word) : Bool := w.looksLikeOption && !p.takesHyphens

/-- Fills the positions in order; `isBehindNamed` says that a position before was given by name. -/
def fill (isBehindNamed : Bool) : Binding → List Word → Except Refusal (Binding × List Word)
  | b, [] => .ok (b, [])
  | [], words => .ok ([], words)
  | a :: rest, w :: words =>
    match a.parameter.standing with
    | none | some .named | some .restOptions =>
      (fill isBehindNamed rest (w :: words)).map fun r => (a :: r.1, r.2)
    | some .positional =>
      if refusesWord a.parameter w then .error .unknownOption
      else (fill isBehindNamed rest words).map fun r => (a.add (.byPosition w.text) :: r.1, r.2)
    | some .either =>
      if !a.tokens.isEmpty then
        (fill true rest (w :: words)).map fun r => (a :: r.1, r.2)
      else if refusesWord a.parameter w then .error .unknownOption
      else if isBehindNamed then .error .wrongOrder
      else (fill isBehindNamed rest words).map fun r => (a.add (.byPosition w.text) :: r.1, r.2)
    | some .restWords =>
      if (w :: words).any (refusesWord a.parameter) then .error .unknownOption
      else
        .ok ({ a with tokens := a.tokens ++ (w :: words).map (.byPosition ·.text) } :: rest, [])

/-- Words are left over. -/
def refuseRest (words : List Word) : Except Refusal Unit :=
  if words.isEmpty then .ok ()
  else if words.any (·.looksLikeOption) then .error .unknownOption
  else .error .unusedWords

def ofWords (env : Environment) (ps : List Parameter) (words : List String) :
    Except Refusal Binding := do
  let (b, words) ← (ofParameters ps).scan words
  let (b, words) ← b.fill false words
  let b := b.map (Argument.withVariable env)
  b.forM Argument.check
  if b.any Argument.isMissing then throw .missingArgument
  refuseRest words
  return b

/-- The flags in the order of declaration, and which of them were given by name. -/
def flags (b : Binding) : FlagSet :=
  (b.filter (·.parameter.isFlag)).map fun a =>
    { name := a.parameter.flagName, changed := !a.givenNames.isEmpty }

def words (b : Binding) : List String := b.flatMap Argument.words

def values (b : Binding) (label : String) : List String :=
  (b.filter (·.parameter.label = label)).flatMap (·.tokens.map Token.value)

/-- The truth value that a switch was set to under a name. -/
def switchTruth (p : Parameter) (name value : String) : Bool :=
  p.names.contains name == !falseWords.contains (Text.lower value)

def truth? (b : Binding) (label : String) : Option Bool :=
  (b.filter (·.parameter.label = label)).findSome? fun a =>
    a.tokens.findSome? fun t => t.name?.map fun name => switchTruth a.parameter name t.value

end Binding

end CommandTelemetry.CommandLine
