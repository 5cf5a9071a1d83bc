/-!
# JSON tokens

Octets are cut into the tokens of JSON. A text is kept as the octets that it stands for, which need
not be valid UTF-8: whether that matters is the reader's concern. What is no token at all ends the
list with a mark, so that a reader meets the defects of its input in the order in which they stand.
-/

namespace CommandTelemetry.Json

inductive Token where
  | openObject
  | closeObject
  | openArray
  | closeArray
  | comma
  | colon
  | text (octets : List UInt8)
  | integer (n : Int)
  /-- A number with a fraction or an exponent. -/
  | real
  | literal
  | bad
  deriving DecidableEq, Repr

abbrev Octets := List UInt8

def isSpace (b : UInt8) : Bool := b == 0x20 || b == 0x09 || b == 0x0A || b == 0x0D

def digitOf? (b : UInt8) : Option Nat :=
  if 0x30 ≤ b ∧ b ≤ 0x39 then some (b.toNat - 0x30) else none

def isDigit (b : UInt8) : Bool := (digitOf? b).isSome

def hexOf? (b : UInt8) : Option Nat :=
  if 0x30 ≤ b ∧ b ≤ 0x39 then some (b.toNat - 0x30)
  else if 0x41 ≤ b ∧ b ≤ 0x46 then some (b.toNat - 0x37)
  else if 0x61 ≤ b ∧ b ≤ 0x66 then some (b.toNat - 0x57)
  else none

/-- The unit of four hexadecimal digits. -/
def readUnit? : Octets → Option (Nat × Octets)
  | a :: b :: c :: d :: rest => do
    let a ← hexOf? a
    let b ← hexOf? b
    let c ← hexOf? c
    let d ← hexOf? d
    some (((a * 16 + b) * 16 + c) * 16 + d, rest)
  | _ => none

def utf8 (n : Nat) : Octets := (String.singleton (Char.ofNat n)).toUTF8.toList

/-- The character that an escape stands for, behind its `\u`. A unit of a pair has to be followed
by the other one. -/
def readCodeEscape? (s : Octets) : Option (Octets × Octets) := do
  let (n, rest) ← readUnit? s
  if n < 0xD800 ∨ 0xDFFF < n then some (utf8 n, rest)
  else if 0xDBFF < n then none
  else
    match rest with
    | 0x5C :: 0x75 :: rest =>
      let (k, rest) ← readUnit? rest
      if 0xDC00 ≤ k ∧ k ≤ 0xDFFF then
        some (utf8 (0x10000 + (n - 0xD800) * 0x400 + (k - 0xDC00)), rest)
      else none
    | _ => none

def letterOf? (b : UInt8) : Option UInt8 :=
  if b == 0x22 || b == 0x5C || b == 0x2F then some b
  else if b == 0x62 then some 0x08
  else if b == 0x66 then some 0x0C
  else if b == 0x6E then some 0x0A
  else if b == 0x72 then some 0x0D
  else if b == 0x74 then some 0x09
  else none

/-- The octets of a text up to its closing quote, in reverse before `read`. Each step takes at least
one octet. -/
def readText? : (steps : Nat) → (read : Octets) → Octets → Option (Octets × Octets)
  | 0, _, _ => none
  | steps + 1, read, s =>
    match s with
    | [] => none
    | 0x22 :: rest => some (read.reverse, rest)
    | 0x5C :: 0x75 :: rest =>
      match readCodeEscape? rest with
      | some (octets, rest) => readText? steps (octets.reverse ++ read) rest
      | none => none
    | 0x5C :: b :: rest =>
      match letterOf? b with
      | some c => readText? steps (c :: read) rest
      | none => none
    | b :: rest => if b < 0x20 || b == 0x5C then none else readText? steps (b :: read) rest

/-- The digits at the front. -/
def takeDigits (s : Octets) : List Nat × Octets :=
  ((s.takeWhile isDigit).filterMap digitOf?, s.dropWhile isDigit)

/-- A part that begins with a given mark and holds at least one digit, if the mark is there. -/
def readFraction? : Octets → Option (Bool × Octets)
  | 0x2E :: rest =>
    match takeDigits rest with
    | ([], _) => none
    | (_, rest) => some (true, rest)
  | rest => some (false, rest)

def dropSign : Octets → Octets
  | 0x2B :: rest => rest
  | 0x2D :: rest => rest
  | rest => rest

def readExponent? : Octets → Option (Bool × Octets)
  | b :: rest =>
    if b == 0x65 || b == 0x45 then
      match takeDigits (dropSign rest) with
      | ([], _) => none
      | (_, rest) => some (true, rest)
    else some (false, b :: rest)
  | [] => some (false, [])

/-- An unsigned number. No digit stands before another one in front if it is zero. -/
def readNumber? (negative : Bool) (s : Octets) : Option (Token × Octets) := do
  let (digits, rest) := takeDigits s
  if digits.isEmpty || (digits.head? == some 0 && 1 < digits.length) then none
  let (fraction, rest) ← readFraction? rest
  let (exponent, rest) ← readExponent? rest
  if fraction || exponent then some (.real, rest)
  else
    let n : Nat := digits.foldl (fun n d => 10 * n + d) 0
    some (.integer (if negative then -n else n), rest)

/-- The words of JSON. -/
def literals : List Octets :=
  ["true".toUTF8.toList, "false".toUTF8.toList, "null".toUTF8.toList]

def readLiteral? (s : Octets) : Option Octets :=
  (literals.find? (·.isPrefixOf s)).map fun w => s.drop w.length

def mark? (b : UInt8) : Option Token :=
  if b == 0x7B then some .openObject
  else if b == 0x7D then some .closeObject
  else if b == 0x5B then some .openArray
  else if b == 0x5D then some .closeArray
  else if b == 0x2C then some .comma
  else if b == 0x3A then some .colon
  else none

/-- The token at the front of octets that do not start with space. -/
def readToken? (s : Octets) : Option (Token × Octets) :=
  match s with
  | [] => none
  | 0x22 :: rest => (readText? (rest.length + 1) [] rest).map fun p => (.text p.1, p.2)
  | 0x2D :: rest => readNumber? true rest
  | b :: rest =>
    match mark? b with
    | some t => some (t, rest)
    | none =>
      if isDigit b then readNumber? false s
      else (readLiteral? s).map fun rest => (.literal, rest)

def tokensFrom : (steps : Nat) → Octets → List Token
  | 0, _ => []
  | steps + 1, s =>
    match s.dropWhile isSpace with
    | [] => []
    | c :: r =>
      match readToken? (c :: r) with
      | some (t, rest) => t :: tokensFrom steps rest
      | none => [.bad]

/-- The tokens of octets. Each token takes at least one octet. -/
def tokens (s : Octets) : List Token := tokensFrom s.length s

end CommandTelemetry.Json
