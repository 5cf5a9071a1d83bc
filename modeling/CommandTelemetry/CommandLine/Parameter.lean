import CommandTelemetry.CommandLine.Refusal
import CommandTelemetry.CommandLine.Word
import CommandTelemetry.Text.Lowercase

/-!
# Parameters of commands

A parameter says where its values may stand, under which names, and of which kind they have to be.
Values are checked but kept as texts: only the command that they are for looks into them. Two sorts
of parameters get no value from the command line: those that are injected by the caller of the
command, and those that are made up of other parameters.
-/

namespace CommandTelemetry.CommandLine

open Text Numeral

inductive ValueKind where
  | text
  | path
  | integer
  | bounded (low high : Int)
  /-- One of some words. -/
  | choice (words : List String)
  /-- One of some words, written in any case. -/
  | looseChoice (words : List String)
  /-- A truth value, which the option itself stands for. -/
  | switch
  deriving DecidableEq, Repr

/-- The value of a hexadecimal digit. -/
def hexDigitValue? (c : Char) : Option Nat :=
  let n := c.toLower.toNat
  if 0x61 ≤ n ∧ n ≤ 0x66 then some (n - 0x61 + 10) else digitValue? c

/-- The natural with these digits, between which single underscores may stand. -/
def readDigits? (base : Nat) : (started : Bool) → Nat → List Char → Option Nat
  | started, n, [] => if started then some n else none
  | started, n, c :: rest =>
    match hexDigitValue? c with
    | some d => if d < base then readDigits? base true (base * n + d) rest else none
    | none => if c = '_' ∧ started then readDigits? base false n rest else none

/-- A natural behind a mark of its base; the digits may start with an underscore. -/
def readMarked? (base : Nat) (s : List Char) : Option Int :=
  let digits := trimNumber s
  let digits := if digits.head? = some '_' then digits.drop 1 else digits
  (readDigits? base false 0 digits).map Int.ofNat

/-- The integer nearest to a number, the even one of two. -/
def roundToInt? (x : Float) : Option Int :=
  if x.isNaN || x.isInf then none
  else some (if isNegative x then -(roundScaled x 1 : Int) else roundScaled x 1)

/-- Reads an integer: with a mark of its base, with a point, or plain. -/
def readWhole? (s : String) : Option Int :=
  match s.toList.map Char.toLower with
  | '0' :: 'x' :: rest => readMarked? 16 rest
  | '0' :: 'o' :: rest => readMarked? 8 rest
  | '0' :: 'b' :: rest => readMarked? 2 rest
  | lower =>
    if lower.contains '.' then (readNumber? s).bind roundToInt? else (readInteger s).toInt?

def trueWords : List String := ["yes", "y", "1", "true", "t"]

def falseWords : List String := ["no", "n", "0", "false", "f"]

def ValueKind.check (kind : ValueKind) (value : String) : Except Refusal Unit :=
  match kind with
  | text | path => .ok ()
  | integer => if (readWhole? value).isSome then .ok () else .error .badValue
  | bounded low high =>
    match readWhole? value with
    | none => .error .badValue
    | some n => if low ≤ n ∧ n ≤ high then .ok () else .error .outOfBounds
  | choice words => if words.contains value then .ok () else .error .badValue
  | looseChoice words => if words.contains (lower value) then .ok () else .error .badValue
  | switch =>
    if (trueWords ++ falseWords).contains (lower value) then .ok () else .error .badValue

/-- Where the values of a parameter may stand. -/
inductive Slot where
  | positional
  | either
  | named
  /-- All words that are left. -/
  | restWords
  /-- All options that are left. -/
  | restOptions
  deriving DecidableEq, Repr

structure Parameter where
  label : String
  slot : Slot
  /-- The names of the option, with their hyphens. -/
  names : List String := []
  kind : ValueKind := .text
  isRequired : Bool := false
  repeats : Bool := false
  takesHyphens : Bool := false
  /-- The variable that stands in where no value is given. -/
  variableName : Option String := none
  /-- The value comes from the caller of the command. -/
  isInjected : Bool := false
  /-- An injected parameter takes the context of the run whatever it is called. -/
  takesContext : Bool := false
  /-- The parameter is made up of others, which are declared behind it. -/
  hasParts : Bool := false
  deriving Repr

namespace Parameter

/-- The name that turns a switch off. -/
def negation (name : String) : String := "--no-" ++ bareName name

def isLong (name : String) : Bool := name.toList.take 2 = ['-', '-']

/-- The command line may give values to the parameter. -/
def takesValues (p : Parameter) : Bool := !p.isInjected && !p.hasParts

/-- Where values from the command line may stand, if there are any. -/
def standing (p : Parameter) : Option Slot := if p.takesValues then some p.slot else none

/-- The option has this name, or it is a switch that this name turns off. -/
def hasName (p : Parameter) (name : String) : Bool :=
  p.names.contains name || (p.kind = .switch && (p.names.filter isLong).any (negation · = name))

def answersTo (p : Parameter) (name : String) : Bool :=
  p.takesValues &&
    match p.slot with
    | .restOptions => isLong name
    | _ => p.hasName name

def isFlag (p : Parameter) : Bool :=
  p.takesValues && (p.slot = .either || p.slot = .named) && !p.names.isEmpty

/-- The name of the flag: the first name of the option. -/
def flagName (p : Parameter) : String := bareName (p.names.head?.getD "")

/-- The same option must not be given again under this name. -/
def refusesAgain (p : Parameter) (given : List String) (name : String) : Bool :=
  match p.slot with
  | .restOptions => given.contains name
  | _ => !p.repeats && !given.isEmpty

end Parameter

end CommandTelemetry.CommandLine
