import CommandTelemetry.Text.Blank
import CommandTelemetry.Text.Lowercase

/-!
# Tool labels

An executable path is reduced to the lower-case name of the file without its extensions. Either
separator is accepted. A path starts with an anchor, which is never part of the name: a drive, a
network share, or a root, any of them behind the marker of an extended path. What follows the
anchor is cut at the separators; empty components and single periods do not count.
-/

namespace CommandTelemetry.Label

open Text

def separator : Char := '\\'

/-- Both separators are read as one. -/
def unifySeparator (c : Char) : Char := if c = '/' then separator else c

/-- The path behind the marker of an extended path. An extended share becomes an ordinary one. -/
def dropExtendedMarker : List Char → List Char
  | '\\' :: '\\' :: '?' :: '\\' :: 'U' :: 'N' :: 'C' :: '\\' :: rest => '\\' :: '\\' :: rest
  | '\\' :: '\\' :: '?' :: '\\' :: rest => rest
  | path => path

/-- The path behind a network share, `\\server\share`, if it starts with one. Neither part of a
share may be empty, except that the path may end where the name of the share would stand. -/
def dropShare? : List Char → Option (List Char)
  | '\\' :: '\\' :: server =>
    if server.head? = some separator then none
    else
      match server.dropWhile (· ≠ separator) with
      | [] => none
      | _ :: share =>
        if share.head? = some separator then none
        else some ((share.dropWhile (· ≠ separator)).drop 1)
  | _ => none

/-- The path behind a drive letter. -/
def dropDrive : List Char → List Char
  | c :: ':' :: rest => if c.isAlpha then rest else c :: ':' :: rest
  | path => path

/-- The path behind its anchor. -/
def dropAnchor (path : List Char) : List Char :=
  let path := dropExtendedMarker path
  match dropShare? path with
  | some rest => rest
  | none => (dropDrive path).dropWhile (· = separator)

/-- The components of a path behind its anchor. -/
def components (path : List Char) : List (List Char) :=
  (splitOn [separator] (dropAnchor (path.map unifySeparator))).filter fun c => c ≠ [] ∧ c ≠ ['.']

/-- The last component of a path, or nothing. -/
def fileName (path : List Char) : List Char := (components path).getLast?.getD []

/-- A file name up to its first period, where a period in front does not count. -/
def dropExtensions : List Char → List Char
  | '.' :: name => name.takeWhile (· ≠ '.')
  | name => name.takeWhile (· ≠ '.')

/-- The label of the tool at a path; empty if the path names none. -/
def toolName (path : String) : String :=
  String.ofList (lowerChars (dropExtensions (fileName path.toList)))

end CommandTelemetry.Label
