import CommandTelemetry.ExitCode
import CommandTelemetry.Fault
import CommandTelemetry.Numeral.Reader

/-!
# Values

Subsystems record facts of any kind as usage, and commands put anything into their results. A
`Value` is such a datum. Spans accept fewer kinds: scalars and lists of scalars of one kind, to
which `CommandTelemetry.Attribute.Normalize` reduces all others.

Values of the common kinds are known by what they hold. Of any other datum no more is known than
what it does when it is asked for its text or gone through, and it may fail to do so.
-/

namespace CommandTelemetry

open Numeral

inductive Value where
  | null
  | bool (b : Bool)
  | int (n : Int)
  /-- An exit code, which counts as the integer of its number. -/
  | exit (c : ExitCode)
  | float (x : Float)
  | text (s : String)
  | list (items : List Value)
  | tuple (items : List Value)
  /-- A plain mapping, in the order of insertion. -/
  | mapping (entries : List (Value × Value))
  | octets (b : List UInt8)
  /-- Octets that may be written to. -/
  | buffer (b : List UInt8)
  /-- The integers from `start` to below `stop`. -/
  | range (start stop : Int)
  /-- A datum of no known kind, with its type and its text. -/
  | foreign (type : String) (label : Except Fault String)
  /-- A mapping that is no plain one, with its type and its text. -/
  | view (type : String) (label : Except Fault String)
  /-- A sequence that is no plain one: its items, what stops whoever goes through them, if anything
  does, and its text. -/
  | sequence (type : String) (items : List Value) (stop : Option Fault)
      (label : Except Fault String)
  /-- A mapping that holds itself, somewhere inside: what comes of following it to the end, and its
  text, which stops short of that. -/
  | knot (fault : Fault) (label : Except Fault String)
  /-- A list or tuple that holds itself, somewhere inside, with the texts of its items. -/
  | ring (type : String) (items : List (Except Fault String)) (fault : Fault)
      (label : Except Fault String)
  deriving Inhabited

namespace Value

def typeName : Value → String
  | null => "NoneType"
  | bool _ => "bool"
  | int _ => "int"
  | exit _ => "ExitCode"
  | float _ => "float"
  | text _ => "str"
  | list _ => "list"
  | tuple _ => "tuple"
  | mapping _ => "dict"
  | octets _ => "bytes"
  | buffer _ => "bytearray"
  | range .. => "range"
  | knot .. => "dict"
  | foreign type _ | view type _ | sequence type .. | ring type .. => type

/-- The integer that a value is; truth values count as 0 and 1. -/
def asInt? : Value → Option Int
  | bool b => some (if b then 1 else 0)
  | int n => some n
  | exit c => some c.number
  | _ => none

def isNull : Value → Bool
  | null => true
  | _ => false

def isBool : Value → Bool
  | bool _ => true
  | _ => false

/-- An integer that is not a truth value. -/
def isInteger : Value → Bool
  | int _ | exit _ => true
  | _ => false

def isExit : Value → Bool
  | exit _ => true
  | _ => false

def isFloat : Value → Bool
  | float _ => true
  | _ => false

/-- The decimal text of an integer, unless it has too many digits. -/
def integerText (n : Int) : Except Fault String :=
  if maxIntegerDigits < (Nat.toDigits 10 n.natAbs).length then .error .integerTooLong
  else .ok (toString n)

/-- The integers of a range, in order. -/
def rangeItems (start stop : Int) : List Value :=
  (List.range (stop - start).toNat).map fun (i : Nat) => int (start + (i : Int))

mutual

/-- Two values are equal, where numbers of different kinds are compared by what they stand for. -/
def same : Value → Value → Bool
  | null, null => true
  | text s, text t => s == t
  | octets a, octets b | octets a, buffer b | buffer a, octets b | buffer a, buffer b => a == b
  | range a b, range c d =>
    ((b - a).toNat == 0 && (d - c).toNat == 0) || (a == c && b == d)
  | list xs, list ys | tuple xs, tuple ys => sameItems xs ys
  | float x, float y => x == y
  | float x, v | v, float x =>
    match v.asInt? with
    | some n => !x.isNaN && compareInt n x == .eq
    | none => false
  | v, w =>
    match v.asInt?, w.asInt? with
    | some m, some n => m == n
    | _, _ => false

def sameItems : List Value → List Value → Bool
  | [], [] => true
  | x :: xs, y :: ys => same x y && sameItems xs ys
  | _, _ => false

end

/-- Writes an entry into a mapping: an equal key keeps its place and takes the value, a new key
goes to the end. -/
def insertEntry (entries : List (Value × Value)) (k v : Value) : List (Value × Value) :=
  match entries with
  | [] => [(k, v)]
  | e :: rest => if same e.1 k then (e.1, v) :: rest else e :: insertEntry rest k v

/-- A floating-point number for a value that is a number. -/
def toFloat? : Value → Except Fault (Option Float)
  | float x => .ok (some x)
  | v =>
    match v.asInt? with
    | none => .ok none
    | some n =>
      match ofInt? n with
      | some x => .ok (some x)
      | none => .error .integerTooLarge

end Value

end CommandTelemetry
