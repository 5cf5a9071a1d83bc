import CommandTelemetry.Failure.Graph
import CommandTelemetry.Json.Token
import CommandTelemetry.Log.Record

/-!
# Reading the answer of an identity provider

A refusal is one JSON object. Known members must have their type, and the last of several members
of one name counts; unknown members are skipped but have to be well formed. A text that is kept has
to be UTF-8, and the reader ends at the first defect that it meets, of either kind.
-/

namespace CommandTelemetry.Failure

open Json

inductive AuthReading where
  | payload (p : AuthPayload)
  /-- The octets are no object of the expected form. -/
  | unreadable
  /-- A text that is kept is not UTF-8. -/
  | badText

/-- What may come next inside a value that is skipped. -/
inductive Expected where
  /-- A value. -/
  | value
  /-- A value, or the end of an array. -/
  | firstItem
  /-- A member, or the end of an object. -/
  | firstMember
  /-- A member. -/
  | member
  /-- What may stand behind a value. -/
  | rest

/-- What a skipped value leaves behind, given what is expected next and the containers that are
open, the innermost first: `true` stands for an object. -/
def skip (open_ : List Bool) : Expected → List Token → Option (List Token)
  | .rest, ts =>
    match open_, ts with
    | [], ts => some ts
    | true :: _, .comma :: ts => skip open_ .member ts
    | true :: outer, .closeObject :: ts => skip outer .rest ts
    | false :: _, .comma :: ts => skip open_ .value ts
    | false :: outer, .closeArray :: ts => skip outer .rest ts
    | _, _ => none
  | .member, .text _ :: .colon :: ts | .firstMember, .text _ :: .colon :: ts =>
    skip open_ .value ts
  | .firstMember, .closeObject :: ts | .firstItem, .closeArray :: ts => skip open_.tail .rest ts
  | .value, t :: ts | .firstItem, t :: ts =>
    match t with
    | .openObject => skip (true :: open_) .firstMember ts
    | .openArray => skip (false :: open_) .firstItem ts
    | .text _ | .integer _ | .real | .literal => skip open_ .rest ts
    | _ => none
  | _, _ => none
termination_by _ ts => ts.length

def skipValue (ts : List Token) : Option (List Token) := skip [] .value ts

/-- Reads integers up to the end of an array. -/
def readIntegers : List Token → Option (List Int × List Token)
  | .integer n :: .closeArray :: ts => some ([n], ts)
  | .integer n :: .comma :: ts => (readIntegers ts).map fun p => (n :: p.1, p.2)
  | _ => none

def readIntegerArray : List Token → Option (List Int × List Token)
  | .openArray :: .closeArray :: ts => some ([], ts)
  | .openArray :: ts => readIntegers ts
  | _ => none

/-- The members that hold a text, each with how it is kept. -/
def textMembers : List (String × (AuthPayload → String → AuthPayload)) :=
  [("error", fun p s => { p with error := s }),
   ("error_description", fun p s => { p with description := s }),
   ("timestamp", fun p s => { p with timestamp := s }),
   ("trace_id", fun p s => { p with traceId := s }),
   ("correlation_id", fun p s => { p with correlationId := s })]

def textOf? (octets : Octets) : Option String := String.fromUTF8? ⟨octets.toArray⟩

/-- What reading one member comes to. -/
inductive MemberReading where
  | read (p : AuthPayload) (rest : List Token)
  | unreadable
  | badText

/-- Reads the value of a member whose name is given. -/
def readMember (p : AuthPayload) (name : Octets) (ts : List Token) : MemberReading :=
  match textMembers.find? fun m => m.1.toUTF8.toList == name with
  | some (_, keep) =>
    match ts with
    | .text octets :: ts =>
      match textOf? octets with
      | some s => .read (keep p s) ts
      | none => .badText
    | _ => .unreadable
  | none =>
    if name == "error_codes".toUTF8.toList then
      match readIntegerArray ts with
      | some (codes, ts) => .read { p with codes } ts
      | none => .unreadable
    else
      match skipValue ts with
      | some ts => .read p ts
      | none => .unreadable

/-- Reads members up to the end of the object, which has to be the end of everything. Each member
takes at least one token. -/
def readMembers : (steps : Nat) → AuthPayload → List Token → AuthReading
  | 0, _, _ => .unreadable
  | steps + 1, p, .text name :: .colon :: ts =>
    match readMember p name ts with
    | .read p (.comma :: ts) => readMembers steps p ts
    | .read p [.closeObject] => .payload p
    | .badText => .badText
    | _ => .unreadable
  | _, _, _ => .unreadable

def readAuth (body : Octets) : AuthReading :=
  match tokens body with
  | [.openObject, .closeObject] => .payload {}
  | .openObject :: ts => readMembers ts.length {} ts
  | _ => .unreadable

def authLogger : String := "errors.auth"

/-- The failure that an answer stands for; `none` if a text in it is not UTF-8. -/
def authOfBody (body : Octets) : Option (Logged (Option AuthPayload)) :=
  match readAuth body with
  | .payload p => some (pure (some p))
  | .unreadable =>
    some ⟨none, [⟨.debug, authLogger, "auth: response body is not a parseable error payload"⟩]⟩
  | .badText => none

end CommandTelemetry.Failure
