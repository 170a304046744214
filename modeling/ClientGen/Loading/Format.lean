import ClientGen.Loading.Snapshot
import ClientGen.Loading.SourceTree
import ClientGen.SolutionFile

/-!
# Loading a solution

A solution is given as a solution file, as a directory that holds exactly one, or as a snapshot. The
name of the file tells which it is.
-/

namespace ClientGen

/-- The form in which a solution is given. -/
inductive SolutionFormat where
  /-- A solution file, or a directory with one. -/
  | solution
  /-- A snapshot. -/
  | snapshot
deriving Repr, DecidableEq

namespace SolutionFormat

/-- The name of a format. -/
def text : SolutionFormat → String
  | solution => "solution"
  | snapshot => "snapshot"

/-- The endings of snapshots. -/
def snapshotSuffixes : List String := [".yaml", ".yml", ".json"]

/-- The ending of solution files. -/
def solutionSuffix : String := ".sln"

/-- The names in a directory that end like solution files. -/
def candidates (tree : FileTree) (directory : Path) : List String :=
  (tree.below directory).filterMap fun (parts, _) =>
    match parts with
    | [name] => if Text.hasEnd solutionSuffix name then some name else none
    | _ => none

/-- Is there a directory at a path? A path may be too long to be looked at. -/
def isDirectory (tree : FileTree) (path : Path) : Except LoadFault Bool :=
  match FileTree.hasNul path, tree.locate path with
  | false, .error .nameTooLong => .error .nameTooLong
  | _, _ => .ok (tree.isDirectory path)

/-- The format of what stands at a path. -/
def detect (tree : FileTree) (path : Path) : Except LoadFault SolutionFormat := do
  if ← isDirectory tree path then
    let found := (candidates tree path).length
    if found = 1 then return .solution
    else throw (.refused (.notOneSolution path.text found))
  else
    let suffix := Text.lower path.suffix
    if suffix = solutionSuffix then return .solution
    else if snapshotSuffixes.contains suffix then return .snapshot
    else throw (.refused (.unsupported path.text))

end SolutionFormat

namespace Solution

/-- A text with every line end turned into a line feed. -/
def withLineFeeds : List Char → List Char
  | '\r' :: '\n' :: rest => '\n' :: withLineFeeds rest
  | '\r' :: rest => '\n' :: withLineFeeds rest
  | c :: rest => c :: withLineFeeds rest
  | [] => []

/-- The text of the file at a path. -/
def readText (tree : FileTree) (path : Path) (refusal : String → FileFault → LoadError) :
    Except LoadFault String :=
  match tree.read path with
  | .error e => .error (e.toLoadFault refusal)
  | .ok content =>
    match String.fromUTF8? content with
    | some text => .ok (String.ofList (withLineFeeds text.toList))
    | none => .error .notUnicode

/-- A text without a byte order mark. -/
def withoutMark (text : String) : String :=
  match text.toList with
  | '\uFEFF' :: rest => String.ofList rest
  | _ => text

/-- The solution of a snapshot file. -/
def loadSnapshot (tree : FileTree) (path : Path) : Except LoadFault Solution := do
  Snapshot.parse (← readText tree path .unreadableSnapshot)

/-- The solution file at a path: in a directory its first candidate, otherwise the path itself. -/
def fileAt (tree : FileTree) (path : Path) : Path :=
  match tree.isDirectory path, SolutionFormat.candidates tree path with
  | true, name :: _ => path.join ⟨"", [name]⟩
  | _, _ => path

/-- The projects that a solution file lists, by name, with the paths of their project files. -/
def listedProjects (tree : FileTree) (file : Path) : Except LoadFault (List (String × Path)) := do
  let text ← readText tree file .unreadableSolution
  return (SolutionFile.projects (withoutMark text)).map fun (name, project) =>
    (name, file.parent.join (Path.ofText project))

/-- The solution of a solution file, with every project it lists. -/
def loadSolutionFile (tree : FileTree) (file : Path) : Except LoadFault Solution := do
  match ← listedProjects tree file with
  | [] => throw (.refused (.noProjects file.text))
  | listed =>
    let projects ← listed.mapM fun (name, project) => SourceTree.loadProject tree name project
    return Solution.ofProjects projects

/-- The solution at a path. -/
def load (tree : FileTree) (path : Path) : Except LoadFault Solution := do
  match ← SolutionFormat.detect tree path with
  | .snapshot => loadSnapshot tree path
  | .solution => loadSolutionFile tree (fileAt tree path)

end Solution

end ClientGen
