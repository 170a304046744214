import ClientGen.CSharp.Unit
import ClientGen.FileTree.Basic
import ClientGen.Loading.Error
import ClientGen.ProjectFile
import ClientGen.Project

/-!
# Projects on disk

The source files of a project are all C# files below its directory, but not those in a directory of
build output. They are taken in the order of their paths, part by part; with the assembly name of
the project file they make up the project.
-/

namespace ClientGen.SourceTree

/-- Directories of build output, in lower case. -/
def excludedDirectories : List String := ["bin", "obj"]

/-- The ending of C# source files. -/
def sourceEnding : String := ".cs"

/-- Do the parts of a path below a project name a source file? -/
def isSource (parts : List String) : Bool :=
  Text.hasEnd sourceEnding (parts.getLast?.getD "") &&
    !parts.dropLast.any fun part => excludedDirectories.contains (Text.lower part)

/-- The order of paths, part by part. -/
def pathLe : List String → List String → Bool
  | [], _ => true
  | _ :: _, [] => false
  | a :: as, b :: bs => if a = b then pathLe as bs else Text.le a b

/-- The source files below a directory, by their parts from there. -/
def sourcesBelow (tree : FileTree) (directory : Path) : List (List String) :=
  (((tree.below directory).map (·.1)).filter isSource).mergeSort pathLe

/-- The source files of a project in a directory. A directory that is not there has none. The limit
on the length of a path is applied to the directory of the project only: the directories below it are
taken to be within the limit. -/
def sourceFiles (tree : FileTree) (directory : Path) : Except LoadFault (List (List String)) :=
  match tree.locate directory with
  | .error .nameTooLong => .error .nameTooLong
  | _ => .ok (sourcesBelow tree directory)

/-- The document in a source file. -/
def readSource (tree : FileTree) (directory : Path) (parts : List String) :
    Except LoadFault Document :=
  match tree.read (directory.join ⟨"", parts⟩) with
  | .error e => .error (e.toLoadFault .unreadableSource)
  | .ok content =>
    match CSharp.readDocument (.ofBytes content.toList) (parts.getLast?.getD "") parts.dropLast with
    | .ok document => .ok document
    | .error fault => .error (.source fault)

/-- The name of the assembly of a project file. -/
def readAssemblyName (tree : FileTree) (file : Path) (default : String) :
    Except LoadFault String :=
  match tree.read file with
  | .error e => .error (e.toLoadFault .unreadableProject)
  | .ok content =>
    match ProjectFile.assemblyName content default with
    | .ok name => .ok name
    | .error .malformed => .error (.refused (.malformedProject file.text))
    | .error fault => .error (.projectEncoding fault)

/-- The project of a project file. -/
def loadProject (tree : FileTree) (name : String) (file : Path) : Except LoadFault Project := do
  let sources ← sourceFiles tree file.parent
  let documents ← sources.mapM (readSource tree file.parent)
  let assemblyName ← readAssemblyName tree file name
  return { name, assemblyName, documents }

end ClientGen.SourceTree
