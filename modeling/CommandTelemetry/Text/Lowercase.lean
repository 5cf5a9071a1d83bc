import CommandTelemetry.Text.LetterCase

/-!
# Lower case

The full lower-case mapping of Unicode 14, without tailoring. It is not a function on characters:
the capital I with a dot becomes two characters, and a capital sigma becomes the final form at the
end of a word. So the mapping walks the text with what stands on either side of each character.
-/

namespace CommandTelemetry.Text

def isCaseIgnorable (c : Char) : Bool := inRanges caseIgnorableRanges c.toNat

def isCased (c : Char) : Bool := inRanges casedRanges c.toNat

/-- The first character that is not case-ignorable is cased. -/
def meetsCased (s : List Char) : Bool :=
  match s.dropWhile isCaseIgnorable with
  | [] => false
  | c :: _ => isCased c

/-- The lower-case form of a character that has one of a single character; others stay. -/
def lowerChar (c : Char) : Char :=
  if c.toNat < 0x80 then c.toLower
  else
    match caseRuns.find? (·.covers c.toNat) with
    | some run => Char.ofNat (run.lower + (c.toNat - run.first))
    | none => c

def capitalSigma : Char := 'Σ'

def capitalDottedI : Char := 'İ'

/-- The lower-case form of `c` after the characters `before`, nearest first, and ahead of `after`.
A capital sigma is final when a cased character precedes it and none follows. -/
def lowerAt (before : List Char) (c : Char) (after : List Char) : List Char :=
  if c = capitalSigma then
    if meetsCased before && !meetsCased after then ['ς'] else ['σ']
  else if c = capitalDottedI then ['i', '\u0307']
  else [lowerChar c]

def lowerFrom (before : List Char) : List Char → List Char
  | [] => []
  | c :: rest => lowerAt before c rest ++ lowerFrom (c :: before) rest

def lowerChars (s : List Char) : List Char := lowerFrom [] s

def lower (s : String) : String := String.ofList (lowerChars s.toList)

end CommandTelemetry.Text
