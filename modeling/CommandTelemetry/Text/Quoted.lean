import CommandTelemetry.Text.Printable

/-!
# Quoted text

A text is quoted with single quotes, unless it holds a single quote and no double quote. The
backslash and the chosen quote are escaped by a backslash, the three usual control characters by
their letter, and every other character that is not printable by its code point in the narrowest of
three hexadecimal forms. Octets are quoted by the same rule, with every octet outside the printable
ASCII range in hexadecimal.
-/

namespace CommandTelemetry.Text

def hexDigit (n : Nat) : Char :=
  if n < 10 then Char.ofNat (0x30 + n) else Char.ofNat (0x61 + (n - 10))

/-- The lowest `width` hexadecimal digits of a number, in lower case. -/
def hexDigits : (width n : Nat) → List Char
  | 0, _ => []
  | width + 1, n => hexDigits width (n / 16) ++ [hexDigit (n % 16)]

def hex (width n : Nat) : String := String.ofList (hexDigits width n)

/-- The quote that a text with these characters takes. -/
def quoteMark (s : List Char) : Char :=
  if s.contains '\'' && !s.contains '"' then '"' else '\''

def codeEscape (n : Nat) : List Char :=
  if n < 0x100 then '\\' :: 'x' :: hexDigits 2 n
  else if n < 0x10000 then '\\' :: 'u' :: hexDigits 4 n
  else '\\' :: 'U' :: hexDigits 8 n

/-- A character inside quotes; `plain` says which characters stand for themselves. -/
def quoteChar (plain : Char → Bool) (mark c : Char) : List Char :=
  if c = '\\' || c = mark then ['\\', c]
  else if c = '\n' then ['\\', 'n']
  else if c = '\r' then ['\\', 'r']
  else if c = '\t' then ['\\', 't']
  else if plain c then [c]
  else codeEscape c.toNat

def quoteWith (plain : Char → Bool) (s : List Char) : List Char :=
  let mark := quoteMark s
  mark :: s.flatMap (quoteChar plain mark) ++ [mark]

def quoted (s : String) : String := String.ofList (quoteWith isPrintable s.toList)

/-- Octets in quotes, after the letter `b` that marks them as octets. -/
def quotedOctets (b : List UInt8) : String :=
  "b" ++ String.ofList
    (quoteWith (fun c => 0x20 ≤ c.toNat && c.toNat < 0x7F) (b.map fun x => Char.ofNat x.toNat))

/-- The first `limit` characters of a text. -/
def takeChars (limit : Nat) (s : String) : String := String.ofList (s.toList.take limit)

end CommandTelemetry.Text
