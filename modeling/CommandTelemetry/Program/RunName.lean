import CommandTelemetry.Text.Quoted

/-!
# Names of runs

A run that is not named by its caller gets a universally unique identifier of version 7, which
starts with the time in milliseconds. A generator never uses a time twice: where the clock has not
moved on it takes the next millisecond, so that identifiers grow strictly with every call.
-/

namespace CommandTelemetry.Program

open Text

/-- How many random bits an identifier has beside its time, its version and its variant. -/
def randomBits : Nat := 74

/-- The number with this time and these random bits, of version 7 and of the usual variant. -/
def identifierOf (millis random : Nat) : Nat :=
  let random := random % Nat.pow 2 randomBits
  ((millis % Nat.pow 2 48) <<< 80) + (7 <<< 76) + ((random >>> 62) <<< 64) + (2 <<< 62)
    + random % Nat.pow 2 62

/-- The digits of an identifier in its five groups. -/
def grouped : List Nat → List Char → List (List Char)
  | [], _ => []
  | n :: rest, s => s.take n :: grouped rest (s.drop n)

/-- The text of an identifier. -/
def identifierText (n : Nat) : String :=
  String.ofList (['-'].intercalate (grouped [8, 4, 4, 4, 12] (hexDigits 32 n)))

/-- The time to use when the clock shows `now`, after `last` was used. -/
def nextTime (last : Option Nat) (now : Nat) : Nat :=
  match last with
  | none => now
  | some t => if now ≤ t then t + 1 else now

/-- A fresh name, and the time that was used for it. -/
def freshName (last : Option Nat) (now random : Nat) : String × Nat :=
  let time := nextTime last now
  (identifierText (identifierOf time random), time)

/-- Fresh names for readings of the clock with random bits. -/
def freshNames (last : Option Nat) : List (Nat × Nat) → List String
  | [] => []
  | (now, random) :: rest =>
    let (name, time) := freshName last now random
    name :: freshNames (some time) rest

/-- The characters at these places are as they should be in every identifier. -/
def isIdentifier (s : String) : Bool :=
  let cs := s.toList
  let isHex (c : Char) : Bool := c.isDigit || ('a' ≤ c && c ≤ 'f')
  cs.length == 36 && cs[14]? == some '7' && (cs[19]?.map ['8', '9', 'a', 'b'].contains).getD false
    && (List.range 36).all fun i =>
      if [8, 13, 18, 23].contains i then cs[i]? == some '-' else (cs[i]?.map isHex).getD false

end CommandTelemetry.Program
