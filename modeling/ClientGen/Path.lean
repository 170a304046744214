import ClientGen.Text.Basic
import ClientGen.Text.Lower

/-!
# Paths

A path is an anchor (empty, one slash or two) with a list of parts. Reading a path drops empty
parts and `.`, and keeps `..`; joining a path with an absolute one gives the absolute one. The
text of a path without anchor and parts is `.`.
-/

namespace ClientGen

/-- A path of a POSIX file system. -/
structure Path where
  /-- Empty for a relative path, otherwise one or two slashes. -/
  anchor : String := ""
  /-- The parts below the anchor; none is empty or `.`. -/
  parts : List String := []
deriving Repr, DecidableEq, Inhabited

namespace Path

/-- The anchor of a text: exactly two leading slashes are kept, more count as one. -/
def anchorOf : List Char → String
  | '/' :: '/' :: '/' :: _ => "/"
  | '/' :: '/' :: _ => "//"
  | '/' :: _ => "/"
  | _ => ""

/-- The parts of a text between slashes that name something. -/
def partsOf (s : String) : List String :=
  (Text.split '/' s).filter fun part => part != "" && part != "."

/-- Read a path. -/
def ofText (s : String) : Path :=
  ⟨anchorOf s.toList, partsOf s⟩

/-- The path `right` as seen from `left`. -/
def join (left right : Path) : Path :=
  if right.anchor = "" then ⟨left.anchor, left.parts ++ right.parts⟩ else right

/-- Read texts and join them from left to right; an absolute one discards what is before it. -/
def ofTexts (segments : List String) : Path :=
  segments.foldl (fun path segment => path.join (ofText segment)) {}

/-- The text of a path. -/
def text (path : Path) : String :=
  let joined := path.anchor ++ "/".intercalate path.parts
  if joined = "" then "." else joined

/-- The path without its last part; a path without parts is its own parent. -/
def parent (path : Path) : Path :=
  ⟨path.anchor, path.parts.dropLast⟩

/-- The last part, or empty. -/
def name (path : Path) : String :=
  path.parts.getLast?.getD ""

/-- The ending of the name from its last dot, unless the name begins or ends with that dot. -/
def suffix (path : Path) : String :=
  match Text.split '.' path.name with
  | [] | [_] => ""
  | first :: rest =>
    let last := rest.getLast?.getD ""
    if last = "" ∨ (first = "" ∧ rest.length = 1) then "" else "." ++ last

end Path

end ClientGen
