import CommandTelemetry.Text.Quoted

/-!
# Documents in JSON

A document is a JSON value whose numbers are kept as they are written. It is written in one of
three ways: on one line with spaces after the separators, without any space, or over several lines
with an indentation of two columns per level. The first and the last keep to ASCII.
-/

namespace CommandTelemetry.Json

open Text

inductive Document where
  | null
  | bool (b : Bool)
  | number (written : String)
  | text (s : String)
  | array (items : List Document)
  | object (members : List (String × Document))
  deriving Inhabited

/-- The two UTF-16 units of a character, or the one. -/
def utf16Units (c : Char) : List Nat :=
  if c.toNat < 0x10000 then [c.toNat]
  else
    let n := c.toNat - 0x10000
    [0xD800 + n / 0x400, 0xDC00 + n % 0x400]

def unitEscape (n : Nat) : List Char := '\\' :: 'u' :: hexDigits 4 n

/-- The escapes of one letter. -/
def letterEscape? (c : Char) : Option (List Char) :=
  if c = '"' then some ['\\', '"']
  else if c = '\\' then some ['\\', '\\']
  else if c = '\n' then some ['\\', 'n']
  else if c = '\r' then some ['\\', 'r']
  else if c = '\t' then some ['\\', 't']
  else if c = '\x0c' then some ['\\', 'f']
  else if c = '\x08' then some ['\\', 'b']
  else none

/-- A character of a text that is written in printable ASCII. -/
def escapeToAscii (c : Char) : List Char :=
  match letterEscape? c with
  | some e => e
  | none => if 0x20 ≤ c.toNat ∧ c.toNat < 0x7F then [c] else (utf16Units c).flatMap unitEscape

/-- A character of a text that escapes no more than it must. -/
def escapeControl (c : Char) : List Char :=
  match letterEscape? c with
  | some e => e
  | none => if c.toNat < 0x20 then unitEscape c.toNat else [c]

def quoteText (escape : Char → List Char) (s : String) : String :=
  String.ofList ('"' :: s.toList.flatMap escape ++ ['"'])

/-- How a document is written on one line. -/
structure Style where
  itemSeparator : String
  keySeparator : String
  escape : Char → List Char

/-- A space after each separator, and ASCII only. -/
def spaced : Style := ⟨", ", ": ", escapeToAscii⟩

/-- No space at all, and as few escapes as possible. -/
def dense : Style := ⟨",", ":", escapeControl⟩

namespace Document

mutual

def write (style : Style) : Document → String
  | null => "null"
  | bool b => if b then "true" else "false"
  | number written => written
  | text s => quoteText style.escape s
  | array items => "[" ++ style.itemSeparator.intercalate (writeItems style items) ++ "]"
  | object members =>
    "\x7b" ++ style.itemSeparator.intercalate (writeMembers style members) ++ "\x7d"

def writeItems (style : Style) : List Document → List String
  | [] => []
  | d :: ds => write style d :: writeItems style ds

def writeMembers (style : Style) : List (String × Document) → List String
  | [] => []
  | (k, d) :: rest =>
    (quoteText style.escape k ++ style.keySeparator ++ write style d) :: writeMembers style rest

end

/-- A line break and the indentation of a level. -/
def lineBreak (level : Nat) : String := "\n" ++ String.ofList (List.replicate (2 * level) ' ')

/-- Items on lines of their own between brackets; nothing at all between them if there is none. -/
def layOutBlock (level : Nat) (opening closing : String) (items : List String) : String :=
  if items.isEmpty then opening ++ closing
  else
    let inner := lineBreak (level + 1)
    opening ++ inner ++ ("," ++ inner).intercalate items ++ lineBreak level ++ closing

mutual

def layOut (level : Nat) : Document → String
  | array items => layOutBlock level "[" "]" (layOutItems (level + 1) items)
  | object members => layOutBlock level "\x7b" "\x7d" (layOutMembers (level + 1) members)
  | d => write spaced d

def layOutItems (level : Nat) : List Document → List String
  | [] => []
  | d :: ds => layOut level d :: layOutItems level ds

def layOutMembers (level : Nat) : List (String × Document) → List String
  | [] => []
  | (k, d) :: rest =>
    (quoteText escapeToAscii k ++ ": " ++ layOut level d) :: layOutMembers level rest

end

end Document

end CommandTelemetry.Json
