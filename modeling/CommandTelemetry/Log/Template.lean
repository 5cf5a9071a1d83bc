import CommandTelemetry.Numeral.Places
import CommandTelemetry.Value.Display

/-!
# Templates

A template is a text with directives, each of which takes a value and says how it is written. The
values stand in order or go by names. A directive that finds no value, or none of its kind, spoils
the template, and so does a value that is left over, or one that cannot be written.
-/

namespace CommandTelemetry.Log

open Text Numeral

/-- How a value is written. -/
structure Directive where
  /-- The name of the value, if it goes by one. -/
  key : Option String
  flags : List Char
  width : Nat
  precision : Option Nat
  kind : Char
  deriving DecidableEq, Repr

inductive Piece where
  | literal (c : Char)
  | directive (d : Directive)
  deriving DecidableEq, Repr

/-- The text up to the bracket that closes the one before it, and what follows. -/
def takeKey : (depth : Nat) → List Char → Option (List Char × List Char)
  | _, [] => none
  | depth, c :: rest =>
    if c = ')' then
      match depth with
      | 0 => some ([], rest)
      | depth + 1 => (takeKey depth rest).map fun r => (c :: r.1, r.2)
    else (takeKey (if c = '(' then depth + 1 else depth) rest).map fun r => (c :: r.1, r.2)

/-- A run of digits as a number, and what follows. -/
def takeNumber (s : List Char) : Nat × List Char :=
  (ofDigits ((s.takeWhile Char.isDigit).map fun c => c.toNat - 48), s.dropWhile Char.isDigit)

def isFlag (c : Char) : Bool := c = '-' || c = '+' || c = ' ' || c = '#' || c = '0'

def isLengthMark (c : Char) : Bool := c = 'h' || c = 'l' || c = 'L'

/-- The directive behind its mark. -/
def readDirective? (s : List Char) : Option (Directive × List Char) := do
  let (key, s) ← match s with
    | '(' :: rest => (takeKey 0 rest).map fun r => (some (String.ofList r.1), r.2)
    | _ => some (none, s)
  let flags := s.takeWhile isFlag
  let (width, s) := takeNumber (s.dropWhile isFlag)
  let (precision, s) := match s with
    | '.' :: rest => (some (takeNumber rest).1, (takeNumber rest).2)
    | _ => (none, s)
  match (if (s.head?.map isLengthMark).getD false then s.drop 1 else s) with
  | kind :: rest => some ({ key, flags, width, precision, kind }, rest)
  | [] => none

/-- The pieces of a template. Each takes at least one character. -/
def readPieces? : (steps : Nat) → List Char → Option (List Piece)
  | _, [] => some []
  | 0, _ :: _ => none
  | steps + 1, '%' :: '%' :: rest => (readPieces? steps rest).map (.literal '%' :: ·)
  | steps + 1, '%' :: rest => do
    let (d, rest) ← readDirective? rest
    return .directive d :: (← readPieces? steps rest)
  | steps + 1, c :: rest => (readPieces? steps rest).map (.literal c :: ·)

def pieces? (template : String) : Option (List Piece) :=
  readPieces? template.length template.toList

/-- Fills a text up to a width. -/
def Directive.pad (d : Directive) (sign body : String) : String :=
  let missing := d.width - (sign.length + body.length)
  if d.flags.contains '-' then sign ++ body ++ String.ofList (List.replicate missing ' ')
  else if d.flags.contains '0' then sign ++ zeros missing ++ body
  else String.ofList (List.replicate missing ' ') ++ sign ++ body

/-- Fills a text that is no number, where zeros do not count. -/
def Directive.padText (d : Directive) (body : String) : String :=
  { d with flags := d.flags.filter (· ≠ '0') }.pad "" body

/-- The sign of a number. -/
def Directive.sign (d : Directive) (negative : Bool) : String :=
  if negative then "-" else if d.flags.contains '+' then "+"
  else if d.flags.contains ' ' then " " else ""

/-- The integer that a number stands for, cut toward zero. -/
def wholeOf? : Value → Option Int
  | .float x => if x.isNaN || x.isInf then none else some (truncate x)
  | v => v.asInt?

def Directive.integer (d : Directive) (mark : String) (digits : List Char) (n : Int) : String :=
  let mark := if d.flags.contains '#' then mark else ""
  d.pad (d.sign (n < 0) ++ mark) (padLeft (d.precision.getD 1) digits)
where
  padLeft (width : Nat) (s : List Char) : String := zeros (width - s.length) ++ String.ofList s

/-- A number with places. -/
def Directive.real (d : Directive) (write : Bool → Nat → Float → String) (x : Float) : String :=
  let sign := d.sign (isNegative x && !x.isNaN)
  if x.isNaN then d.pad sign "nan"
  else if x.isInf then d.pad sign "inf"
  else d.pad sign (write (d.flags.contains '#') (d.precision.getD 6) x)

/-- The text of a value in ASCII. -/
def escaped (s : String) : String :=
  String.ofList (s.toList.flatMap fun c => if c.toNat < 0x80 then [c] else codeEscape c.toNat)

def Directive.text (d : Directive) (s : String) : String :=
  d.padText (match d.precision with
    | some n => takeChars n s
    | none => s)

/-- A single character. -/
def characterOf? : Value → Option String
  | .text s => if s.length = 1 then some s else none
  | v => do
    let n ← v.asInt?
    if 0 ≤ n ∧ n < 0x110000 then some (String.singleton (Char.ofNat n.toNat)) else none

/-- A value as a directive writes it; nothing if it is not of the kind that is asked for. -/
def Directive.write? (d : Directive) (v : Value) : Option String :=
  let real (write : Bool → Nat → Float → String) : Option String :=
    match v.toFloat? with
    | .ok (some x) => some (d.real write x)
    | _ => none
  match d.kind with
  | 's' => v.display.toOption.map d.text
  | 'r' => v.inspect.toOption.map d.text
  | 'a' => v.inspect.toOption.map fun s => d.text (escaped s)
  | 'd' | 'i' | 'u' => do
    let n ← wholeOf? v
    let _ ← (Value.integerText n).toOption
    return d.integer "" (Nat.toDigits 10 n.natAbs) n
  | 'x' => v.asInt?.map fun n => d.integer "0x" (Nat.toDigits 16 n.natAbs) n
  | 'X' => v.asInt?.map fun n =>
    d.integer "0X" ((Nat.toDigits 16 n.natAbs).map Char.toUpper) n
  | 'o' => v.asInt?.map fun n => d.integer "0o" (Nat.toDigits 8 n.natAbs) n
  | 'c' => (characterOf? v).map d.padText
  | 'f' => real fixedPlaces
  | 'F' => (real fixedPlaces).map (·.map Char.toUpper)
  | 'e' => real scientificPlaces
  | 'E' => (real scientificPlaces).map (·.map Char.toUpper)
  | 'g' => real suitablePlaces
  | 'G' => (real suitablePlaces).map (·.map Char.toUpper)
  | _ => none

/-- What the directives of a template take their values from. -/
structure Supply where
  /-- The values that are left, in order. -/
  queue : List Value
  /-- The value of a name. -/
  named : String → Option Value
  /-- Values may be left over. -/
  isOpen : Bool := false

/-- Fills in a template. -/
def fill? (supply : Supply) : List Piece → Option String
  | [] => if supply.queue.isEmpty || supply.isOpen then some "" else none
  | .literal c :: rest => (fill? supply rest).map (String.singleton c ++ ·)
  | .directive d :: rest =>
    match d.key, supply.queue with
    | some key, _ => do
      let s ← (supply.named key).bind d.write?
      return s ++ (← fill? supply rest)
    | none, v :: queue => do
      let s ← d.write? v
      return s ++ (← fill? { supply with queue } rest)
    | none, [] => none

/-- Fills values into a template, in order. -/
def fillInOrder? (template : String) (values : List Value) : Option String :=
  (pieces? template).bind (fill? { queue := values, named := fun _ => none })

/-- Fills values into a template, by name. -/
def fillByName? (template : String) (named : String → Option Value) : Option String :=
  (pieces? template).bind (fill? { queue := [], named, isOpen := true })

/-- A message whose template is filled in, unless it has no values. A single mapping supplies the
values by name and may be used as a value itself. -/
def message? (template : String) (values : List Value) : Option String :=
  match values with
  | [] => some template
  | [.mapping (e :: rest)] =>
    let named (key : String) : Option Value :=
      ((e :: rest).find? fun p => Value.same p.1 (.text key)).map (·.2)
    (pieces? template).bind
      (fill? { queue := [.mapping (e :: rest)], named, isOpen := true })
  | values => fillInOrder? template values

/-- A directive with a name stands at the front of a text. -/
def startsWithNamed (s : List Char) : Bool :=
  match s with
  | '%' :: '(' :: rest =>
    match rest.span fun c => c.isAlphanum || c = '_' || 0x80 ≤ c.toNat with
    | (_ :: _, ')' :: rest) =>
      let rest := (takeNumber (rest.dropWhile isFlag)).2
      let rest := match rest with
        | '.' :: r => (takeNumber r).2
        | r => r
      match rest with
      | kind :: _ => "diouxefgcrsa%".toList.contains kind.toLower
      | [] => false
    | _ => false
  | _ => false

/-- A template takes some value by name. -/
def takesNamed : List Char → Bool
  | [] => false
  | c :: rest => startsWithNamed (c :: rest) || takesNamed rest

end CommandTelemetry.Log
