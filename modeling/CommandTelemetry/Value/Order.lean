import CommandTelemetry.Value.Basic

/-!
# The order of mapping keys

A canonical text lists the entries of a mapping by their keys. Texts are ordered by code point and
numbers by what they stand for, but a text and a number have no order, and neither have two values
of most other kinds. The sort therefore fails on the first pair that it compares and cannot order,
which makes the sequence of comparisons part of its result.

Where all keys are texts nothing can fail, and a stable sort of the library does the work.
Otherwise the entries are sorted by insertion: the longest run at the front that is already in
order, ascending or strictly descending, is taken as it is, and every further entry is put in its
place by bisection.
-/

namespace CommandTelemetry.Value

open Numeral

/-- The order of two numbers, if both are. NaN comes neither before nor after anything. -/
def numberPrecedes? : Value → Value → Option Bool
  | float x, float y => some (x < y)
  | float x, w => w.asInt?.map fun n => !x.isNaN && compareInt n x == .gt
  | v, float y => v.asInt?.map fun m => !y.isNaN && compareInt m y == .lt
  | v, w =>
    match v.asInt?, w.asInt? with
    | some m, some n => some (m < n)
    | _, _ => none

/-- The order of two lists by their first difference; a proper beginning comes first. -/
def octetsPrecede : List UInt8 → List UInt8 → Bool
  | [], [] => false
  | [], _ :: _ => true
  | _ :: _, [] => false
  | a :: as, b :: bs => if a == b then octetsPrecede as bs else a < b

mutual

def precedes : Value → Value → Except Fault Bool
  | text s, text t => .ok (s < t)
  | octets a, octets b => .ok (octetsPrecede a b)
  | tuple xs, tuple ys => itemsPrecede xs ys
  | v, w =>
    match numberPrecedes? v w with
    | some b => .ok b
    | none => .error (.unordered v.typeName w.typeName)

def itemsPrecede : List Value → List Value → Except Fault Bool
  | [], [] => .ok false
  | [], _ :: _ => .ok true
  | _ :: _, [] => .ok false
  | x :: xs, y :: ys => if same x y then itemsPrecede xs ys else precedes x y

end

/-- The text that a key is, if it is one. -/
def asText? : Value → Option String
  | text s => some s
  | _ => none

section Entries

/-- An entry of a mapping whose values may have been replaced by something else. -/
abbrev Keyed (α : Type) := Value × α

/-- Extends a run, given from its last entry to its first, as long as the next entry stands to the
last one as `descending` says. -/
def extendRun {α : Type} (descending : Bool) :
    List (Keyed α) → List (Keyed α) → Except Fault (List (Keyed α) × List (Keyed α))
  | run, [] => .ok (run, [])
  | [], rest => .ok ([], rest)
  | last :: run, next :: rest => do
    if (← precedes next.1 last.1) == descending then
      extendRun descending (next :: last :: run) rest
    else .ok (last :: run, next :: rest)

/-- The run at the front in ascending order, and what follows it. -/
def leadingRun {α : Type} :
    List (Keyed α) → Except Fault (List (Keyed α) × List (Keyed α))
  | first :: second :: rest => do
    if ← precedes second.1 first.1 then extendRun true [second, first] rest
    else
      let (run, rest) ← extendRun false [second, first] rest
      .ok (run.reverse, rest)
  | short => .ok (short, [])

/-- Bisects for the place of a key among the entries from `low` to below `high`: behind all those
that it does not precede. -/
def place {α : Type} (k : Value) (sorted : Array (Keyed α)) (low high : Nat) : Except Fault Nat :=
  if low < high then do
    let middle := low + (high - low) / 2
    match sorted[middle]? with
    | some e =>
      if ← precedes k e.1 then place k sorted low middle else place k sorted (middle + 1) high
    | none => .ok low
  else .ok low
termination_by high - low

def insertAll {α : Type} (sorted : List (Keyed α)) :
    List (Keyed α) → Except Fault (List (Keyed α))
  | [] => .ok sorted
  | e :: rest => do
    let i ← place e.1 sorted.toArray 0 sorted.length
    insertAll (sorted.take i ++ e :: sorted.drop i) rest

def textKeyLE {α : Type} (a b : String × α) : Bool := a.1 ≤ b.1

def sortEntries {α : Type} (entries : List (Keyed α)) : Except Fault (List (Keyed α)) :=
  match entries.mapM fun e => e.1.asText?.map fun s => (s, e.2) with
  | some named => .ok ((named.mergeSort textKeyLE).map fun e => (text e.1, e.2))
  | none => do
    let (run, rest) ← leadingRun entries
    insertAll run rest

end Entries

end CommandTelemetry.Value
