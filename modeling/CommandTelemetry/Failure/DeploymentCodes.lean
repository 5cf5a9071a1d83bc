import CommandTelemetry.Failure.Graph
import CommandTelemetry.Value.Compact

/-!
# Codes of failed deployments

A failed deployment is a tree of lines. The codes of the lines on one level of siblings are joined
to one entry, with the number of levels above it that have an entry themselves. Levels without any
code leave no entry and are not counted, so the numbers have no gaps.
-/

namespace CommandTelemetry.Failure

structure DeploymentCode where
  code : String
  frame : Nat
  deriving DecidableEq, Repr

/-- The codes of the lines of a level that have one. -/
def levelCodes (lines : List (Option DeploymentLine)) : List String :=
  lines.filterMap fun
    | some l => if l.code = "" then none else some l.code
    | none => none

/-- The entry of a level, if any line on it has a code. -/
def levelEntry (lines : List (Option DeploymentLine)) (frame : Nat) : Option DeploymentCode :=
  match levelCodes lines with
  | [] => none
  | codes => some ⟨",".intercalate codes, frame⟩

mutual

/-- The entries of a level and of the levels below each of its lines in turn. -/
def levelEntries (frame : Nat) (lines : List (Option DeploymentLine)) : List DeploymentCode :=
  match levelEntry lines frame with
  | some entry => entry :: innerEntries (frame + 1) lines
  | none => innerEntries frame lines

def innerEntries (frame : Nat) : List (Option DeploymentLine) → List DeploymentCode
  | [] => []
  | none :: rest => innerEntries frame rest
  | some (.line _ _ inner) :: rest => levelEntries frame inner ++ innerEntries frame rest

end

/-- The entries of a tree, whose root is a level of its own. -/
def deploymentCodes (root : Option DeploymentLine) : List DeploymentCode := levelEntries 0 [root]

def DeploymentCode.toEntry (c : DeploymentCode) : Value × Value := (.text c.code, .int c.frame)

open Json in
/-- The document of a list of entries, whose fields may hold any value. -/
def codesDocument (entries : List (Value × Value)) : Except Value.Unwritable Document := do
  let items ← entries.mapM fun e => do
    let code ← e.1.compact
    let frame ← e.2.compact
    pure (Document.object [("error.code", code), ("error.frame", frame)])
  pure (.array items)

/-- Why entries were not encoded. -/
inductive EncodingFailure where
  /-- The encoder refused them, with this explanation. -/
  | refused (reason : String)
  /-- The encoder itself is broken. -/
  | broken (reason : String)

/-- What turns entries into a text. -/
abbrev CodesEncoder := List (Value × Value) → Except EncodingFailure String

/-- The encoder of the library: dense JSON. -/
def denseEncoder : CodesEncoder := fun entries =>
  match codesDocument entries with
  | .ok d => .ok (d.write Json.dense)
  | .error reason => .error (.refused reason.message)

end CommandTelemetry.Failure
