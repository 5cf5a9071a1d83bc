import CommandTelemetry.Numeral.Reader

/-!
# Words of a command line

A word that starts with a hyphen is meant as an option, unless it is a number, real or complex:
`-5` and `-1.5j` are values. The words behind a lone `--` are values whatever they look like.
-/

namespace CommandTelemetry.CommandLine

open Numeral

/-- What follows the longest name of a number without digits. -/
def dropName? (s : List Char) : Option (List Char) :=
  ["infinity", "inf", "nan"].findSome? fun name =>
    if (s.take name.length).map Char.toLower = name.toList then some (s.drop name.length)
    else none

/-- What follows an exponent, if there is one. -/
def dropExponent (s : List Char) : List Char :=
  match s with
  | c :: r =>
    if c = 'e' ∨ c = 'E' then
      match takeDigitRun (takeSign r).2 with
      | ([], _) => s
      | (_, rest) => rest
    else s
  | [] => []

/-- What follows the longest real number that a text starts with. -/
def dropReal? (s : List Char) : Option (List Char) :=
  let body := (takeSign s).2
  (dropName? body).orElse fun _ =>
    let (whole, rest) := takeDigitRun body
    let (fraction, rest) :=
      match rest with
      | '.' :: r => takeDigitRun r
      | r => ([], r)
    if whole.isEmpty && fraction.isEmpty then none else some (dropExponent rest)

/-- The mark of an imaginary number ends a text. -/
def isImaginaryMark (s : List Char) : Bool := s = ['j'] || s = ['J']

/-- A text is the imaginary part of a number, which may go without digits. -/
def isImaginary (s : List Char) : Bool :=
  match dropReal? s with
  | some rest => isImaginaryMark rest
  | none => isImaginaryMark (takeSign s).2

def startsWithSign : List Char → Bool
  | c :: _ => c = '+' || c = '-'
  | [] => false

/-- A text without blanks around it is a number. -/
def isComplex (s : List Char) : Bool :=
  match dropReal? s with
  | none => isImaginaryMark (takeSign s).2
  | some [] => true
  | some rest => isImaginaryMark rest || (startsWithSign rest && isImaginary rest)

/-- The text between round brackets, if it stands between them. -/
def unbracketed (s : List Char) : List Char :=
  match s with
  | '(' :: r => if r.getLast? = some ')' then trimNumber r.dropLast else s
  | _ => s

def isNumber (s : String) : Bool := isComplex (unbracketed (trimNumber s.toList))

def hasHyphen (w : String) : Bool := w.toList.head? = some '-'

def looksLikeOption (w : String) : Bool := hasHyphen w && !isNumber w

/-- The name of an option and the value that is written behind an equals sign. -/
def splitAssignment (w : String) : String × Option String :=
  match w.toList.span (· ≠ '=') with
  | (name, _ :: value) => (String.ofList name, some (String.ofList value))
  | (name, []) => (String.ofList name, none)

/-- The name of an option without the hyphens in front. -/
def bareName (keyword : String) : String :=
  String.ofList (keyword.toList.dropWhile (· = '-'))

/-- The word that ends the options. -/
def endOfOptions : String := "--"

/-- A word that may be a value; a literal one stands behind the end of the options. -/
structure Word where
  text : String
  isLiteral : Bool := false
  deriving DecidableEq, Repr

def Word.looksLikeOption (w : Word) : Bool :=
  !w.isLiteral && CommandLine.looksLikeOption w.text

end CommandTelemetry.CommandLine
