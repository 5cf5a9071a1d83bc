import CommandTelemetry.Text.CodeRange

/-!
# Blank characters

White space is the Unicode property White_Space together with the four information separators
U+001C to U+001F. Zero-width characters are not blank.

`strip` removes blanks at both ends, `words` cuts a text at its blanks, and `splitOn` at a given
separator. All three are defined on lists of characters, where each is one or two library
operations or a recursion on the list.
-/

namespace CommandTelemetry.Text

def blankRanges : List CodeRange :=
  [(0x9, 0xD), (0x1C, 0x20), (0x85, 0x85), (0xA0, 0xA0), (0x1680, 0x1680), (0x2000, 0x200A),
   (0x2028, 0x2029), (0x202F, 0x202F), (0x205F, 0x205F), (0x3000, 0x3000)]

def isBlank (c : Char) : Bool := inRanges blankRanges c.toNat

/-- The characters without the blanks at either end. -/
def stripChars (s : List Char) : List Char :=
  ((s.dropWhile isBlank).reverse.dropWhile isBlank).reverse

def strip (s : String) : String := String.ofList (stripChars s.toList)

/-- The maximal runs of characters that are not blank, in order. -/
def wordChars (s : List Char) : List (List Char) :=
  match _h : s.dropWhile isBlank with
  | [] => []
  | c :: r =>
    (c :: r.takeWhile (!isBlank ·)) :: wordChars (r.dropWhile (!isBlank ·))
termination_by s.length
decreasing_by
  -- the rest is a suffix of what follows the first character that is not blank
  have h₁ : (r.dropWhile (!isBlank ·)).length ≤ r.length :=
    (List.dropWhile_sublist _).length_le
  have h₂ : (s.dropWhile isBlank).length ≤ s.length := (List.dropWhile_sublist _).length_le
  simp only [_h, List.length_cons] at h₂
  omega

def words (s : String) : List String := (wordChars s.toList).map String.ofList

/-- What stands before and after the first occurrence of a separator that is not empty. -/
def cutAt? (sep : List Char) : List Char → Option (List Char × List Char)
  | [] => none
  | c :: r =>
    if sep.isPrefixOf (c :: r) then some ([], r.drop (sep.length - 1))
    else (cutAt? sep r).map fun p => (c :: p.1, p.2)

theorem length_of_cutAt? {sep s : List Char} {p : List Char × List Char}
    (h : cutAt? sep s = some p) : p.2.length < s.length := by
  induction s generalizing p with
  | nil => simp [cutAt?] at h
  | cons c r ih =>
    simp only [cutAt?] at h
    split at h
    · cases h
      simp only [List.length_drop, List.length_cons]
      omega
    · obtain ⟨q, hq, rfl⟩ := Option.map_eq_some_iff.1 h
      have := ih hq
      simp only [List.length_cons]
      omega

/-- The pieces between the occurrences of a separator, found from the left. -/
def splitOn (sep s : List Char) : List (List Char) :=
  match h : cutAt? sep s with
  | none => [s]
  | some (piece, rest) =>
    have := length_of_cutAt? h
    piece :: splitOn sep rest
termination_by s.length

end CommandTelemetry.Text
