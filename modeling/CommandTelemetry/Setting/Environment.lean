import CommandTelemetry.Fault
import CommandTelemetry.Log.Record
import CommandTelemetry.Numeral.Reader
import CommandTelemetry.Text.Lowercase

/-!
# Environment variables

Settings come from environment variables. A variable that is unset or blank has no value, and each
kind of setting has a reader of its own. A reader yields nothing for a variable without value and
for one that does not read, and logs the latter; the default is the caller's.
-/

namespace CommandTelemetry

open Text Numeral

/-- The variables that are set, with their texts. -/
abbrev Environment := List (String × String)

namespace Environment

def get? (env : Environment) (name : String) : Option String := env.lookup name

/-- The value of a variable: its text without blanks around it, unless nothing is left. -/
def text? (env : Environment) (name : String) : Option String :=
  match env.get? name with
  | none => none
  | some raw => if strip raw = "" then none else some (strip raw)

def logger : String := "utils.env_utils"

def invalid {α : Type} (kind name raw : String) : Logged (Option α) :=
  Logged.warn logger s!"Invalid {kind} for {name}: {quoted raw}" none

/-- The items of a list, which are not blank and have no blanks around them. -/
def items (separator value : List Char) : List (List Char) :=
  ((splitOn separator value).map stripChars).filter (· ≠ [])

/-- The items of a variable's value between separators. -/
def list? (env : Environment) (name : String) (separator : String := ",") :
    Except Fault (Option (List String)) :=
  match env.text? name with
  | none => .ok none
  | some value =>
    if separator = "" then .error .emptySeparator
    else .ok (some ((items separator.toList value.toList).map String.ofList))

/-- The items of a variable, or those of the default where the variable has no value. A default that
is missing has none. -/
def list (env : Environment) (name : String) (default : Option (List String) := none)
    (separator : String := ",") : Except Fault (List String) :=
  (env.list? name separator).map fun items => items.getD (default.getD [])

def trueWords : List String := ["1", "true", "yes", "y", "on"]

def falseWords : List String := ["0", "false", "no", "n", "off"]

/-- A truth value in any of the usual words. A blank text is none of them. -/
def bool? (env : Environment) (name : String) : Logged (Option Bool) :=
  match env.get? name with
  | none => pure none
  | some raw =>
    let word := lower (strip raw)
    if word ∈ trueWords then pure (some true)
    else if word ∈ falseWords then pure (some false)
    else invalid "boolean" name raw

/-- A truth value in the words "true" and "false" only. -/
def strictBool? (env : Environment) (name : String) : Logged (Option Bool) :=
  match env.text? name with
  | none => pure none
  | some value =>
    if lower value = "true" then pure (some true)
    else if lower value = "false" then pure (some false)
    else invalid "boolean" name value

def number? (env : Environment) (name : String) : Logged (Option Float) :=
  match env.text? name with
  | none => pure none
  | some value =>
    match readNumber? value with
    | some x => pure (some x)
    | none => invalid "float" name value

def integer? (env : Environment) (name : String) : Logged (Option Int) :=
  match env.text? name with
  | none => pure none
  | some value =>
    match (readInteger value).toInt? with
    | some n => pure (some n)
    | none => invalid "integer" name value

/-- A value that a variable may choose, with the texts that choose it in any case. -/
structure Choice (α : Type) where
  value : α
  labels : List String

/-- The first choice that has the variable's value among its labels. -/
def choice? {α : Type} (env : Environment) (name : String) (choices : List (Choice α)) :
    Logged (Option α) :=
  match env.text? name with
  | none => pure none
  | some value =>
    match choices.find? fun c => c.labels.any fun l => lower l == lower value with
    | some c => pure (some c.value)
    | none => invalid "value" name value

end Environment

end CommandTelemetry
