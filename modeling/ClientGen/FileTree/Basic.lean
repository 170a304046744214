import ClientGen.FileTree.Error
import ClientGen.Path

/-!
# A tree of files

The files and directories that a run reads and writes, as a finite map from locations to nodes,
together with the working directory that relative paths start from. There are no symbolic links.
A path is followed part by part: every part but the last has to be a directory, and `..` goes up
from the directory reached so far. The root is its own parent.

Operations that write answer with the tree they leave behind also when they fail, since making
the directories of a path can succeed half-way.

An operation is refused only for what the path and the tree tell: a NUL character in the path, the
length of a name or of the whole path, and what stands or does not stand where the path leads. Full
disks, limits on the size of files, permissions, and errors of input or output after a file has been
opened are not modelled: a file that can be opened is read or written to its end.
-/

namespace ClientGen

/-- The parts of an absolute position, from the root down. -/
abbrev Location := List String

/-- What stands at a location. -/
inductive Node where
  /-- A directory. -/
  | directory
  /-- A regular file with its bytes. -/
  | file (content : ByteArray)
deriving BEq, Inhabited

/-- Files and directories, with a working directory. -/
structure FileTree where
  /-- The nodes below the root. -/
  nodes : List (Location × Node) := []
  /-- The working directory. -/
  workingDirectory : Location := []
deriving Inhabited

namespace FileTree

/-- The longest name of a file, in bytes. -/
def maxNameBytes : Nat := 255

/-- The length in bytes from which on a path is too long. -/
def maxPathBytes : Nat := 4096

/-- The node at a location; the root is a directory. -/
def find? (tree : FileTree) (location : Location) : Option Node :=
  if location = [] then some .directory else tree.nodes.lookup location

/-- Replace the first node at a location, or add one. -/
def setNode (location : Location) (node : Node) :
    List (Location × Node) → List (Location × Node)
  | [] => [(location, node)]
  | (key, old) :: rest =>
    if key = location then (key, node) :: rest else (key, old) :: setNode location node rest

/-- The tree with a node at a location. -/
def insert (tree : FileTree) (location : Location) (node : Node) : FileTree :=
  { tree with nodes := setNode location node tree.nodes }

/-- The directory one step up. -/
def up (location : Location) : Location :=
  location.dropLast

/-- Go from a directory into one of its parts, which has to be a directory too. -/
def enter (tree : FileTree) (here : Location) (part : String) : Except FileFault Location :=
  if part = ".." then .ok (up here)
  else if part.utf8ByteSize > maxNameBytes then .error .nameTooLong
  else
    match tree.find? (here ++ [part]) with
    | none => .error .notFound
    | some (.file _) => .error .notDirectory
    | some .directory => .ok (here ++ [part])

/-- Follow directories from a location. -/
def follow (tree : FileTree) (here : Location) : List String → Except FileFault Location
  | [] => .ok here
  | part :: rest => do tree.follow (← tree.enter here part) rest

/-- Where a path starts. -/
def start (tree : FileTree) (path : Path) : Location :=
  if path.anchor = "" then tree.workingDirectory else []

/-- The location a path means. Its directory has to exist, the location itself need not. -/
def locate (tree : FileTree) (path : Path) : Except FileFault Location :=
  if path.text.utf8ByteSize ≥ maxPathBytes then .error .nameTooLong
  else
    match path.parts.getLast? with
    | none => .ok (tree.start path)
    | some last => do
      let directory ← tree.follow (tree.start path) path.parts.dropLast
      if last = ".." then .ok (up directory)
      else if last.utf8ByteSize > maxNameBytes then .error .nameTooLong
      else .ok (directory ++ [last])

/-- The location a path means when every part that it goes through is a directory. -/
def locationOf (tree : FileTree) (path : Path) : Location :=
  path.parts.foldl (fun here part => if part = ".." then up here else here ++ [part])
    (tree.start path)

/-- What stands at a path. -/
def status (tree : FileTree) (path : Path) : Except FileFault Node := do
  match tree.find? (← tree.locate path) with
  | some node => .ok node
  | none => .error .notFound

/-- Does a text end in a way that only a directory can have? -/
def namesDirectory (text : String) : Bool :=
  [some "", some "."].contains (Text.split '/' text).getLast?

/-- What stands where a text leads that is followed as it is, with nothing dropped from it. The
empty text leads nowhere, and no file stands under a name that only a directory can have. -/
def standing? (tree : FileTree) (text : String) : Option Node :=
  if text = "" ∨ text.utf8ByteSize ≥ maxPathBytes then none
  else
    match tree.status (Path.ofText text) with
    | .ok (.file content) => if namesDirectory text then none else some (.file content)
    | .ok .directory => some .directory
    | .error _ => none

/-- Does a path hold a NUL character? -/
def hasNul (path : Path) : Bool :=
  path.text.toList.contains '\x00'

/-- Is there a directory at a path? -/
def isDirectory (tree : FileTree) (path : Path) : Bool :=
  !hasNul path && tree.status path matches .ok .directory

/-- Is there a file at a path? -/
def isFile (tree : FileTree) (path : Path) : Bool :=
  !hasNul path && tree.status path matches .ok (.file _)

/-- Does anything stand at a path? -/
def pathExists (tree : FileTree) (path : Path) : Bool :=
  !hasNul path && tree.status path matches .ok _

/-- The refusal of an operation on a path. -/
def refuse (fault : FileFault) (path : Path) : FileError :=
  .refused fault path.text

/-- The bytes of the file at a path. -/
def read (tree : FileTree) (path : Path) : Except FileError ByteArray :=
  if hasNul path then .error .nulCharacter
  else
    match tree.status path with
    | .ok (.file content) => .ok content
    | .ok .directory => .error (refuse .isDirectory path)
    | .error fault => .error (refuse fault path)

/-- Make one directory, whose own directory has to exist. -/
def makeDirectory (tree : FileTree) (path : Path) : Except FileError FileTree :=
  if hasNul path then .error .nulCharacter
  else
    match tree.locate path with
    | .error fault => .error (refuse fault path)
    | .ok location =>
      match tree.find? location with
      | some _ => .error (refuse .exists path)
      | none => .ok (tree.insert location .directory)

/-- Make one directory, or be content with the directory that is there. -/
def ensureDirectory (tree : FileTree) (path : Path) : Except FileError FileTree :=
  match tree.makeDirectory path with
  | .ok tree => .ok tree
  | .error (.refused fault name) =>
    if tree.isDirectory path then .ok tree else .error (.refused fault name)
  | .error .nulCharacter => .error .nulCharacter

/-- Make a directory with all directories above it. The parts come in reverse, the last first. -/
def makeDirectoriesAt (anchor : String) :
    List String → FileTree → Except FileError Unit × FileTree
  | [], tree =>
    match tree.ensureDirectory ⟨anchor, []⟩ with
    | .ok tree => (.ok (), tree)
    | .error e => (.error e, tree)
  | part :: above, tree =>
    let path : Path := ⟨anchor, (part :: above).reverse⟩
    match tree.makeDirectory path with
    | .ok tree => (.ok (), tree)
    | .error (.refused .notFound _) =>
      match makeDirectoriesAt anchor above tree with
      | (.error e, tree) => (.error e, tree)
      | (.ok (), tree) =>
        match tree.ensureDirectory path with
        | .ok tree => (.ok (), tree)
        | .error e => (.error e, tree)
    | .error e =>
      match tree.ensureDirectory path with
      | .ok tree => (.ok (), tree)
      | .error _ => (.error e, tree)

/-- Make a directory with all directories above it; those that exist are kept. -/
def makeDirectories (tree : FileTree) (path : Path) : Except FileError Unit × FileTree :=
  makeDirectoriesAt path.anchor path.parts.reverse tree

/-- Write a file in a directory that exists, in place of an earlier file. -/
def write (tree : FileTree) (path : Path) (content : ByteArray) : Except FileError FileTree :=
  if hasNul path then .error .nulCharacter
  else
    match tree.locate path with
    | .error fault => .error (refuse fault path)
    | .ok location =>
      match tree.find? location with
      | some .directory => .error (refuse .isDirectory path)
      | _ => .ok (tree.insert location (.file content))

/-- Write a file, making the directories above it first. -/
def save (tree : FileTree) (path : Path) (content : ByteArray) :
    Except FileError Unit × FileTree :=
  match tree.makeDirectories path.parent with
  | (.error e, tree) => (.error e, tree)
  | (.ok (), tree) =>
    match tree.write path content with
    | .ok tree => (.ok (), tree)
    | .error e => (.error e, tree)

/-- Is a location at or below another? -/
def isBelow (above : Location) (location : Location) : Bool :=
  above.isPrefixOf location

/-- Remove what stands at a path, a directory with everything in it. -/
def remove (tree : FileTree) (path : Path) : Except FileError FileTree :=
  if hasNul path then .error .nulCharacter
  else
    match tree.locate path with
    | .error fault => .error (refuse fault path)
    | .ok location =>
      match tree.find? location with
      | none => .error (refuse .notFound path)
      | some _ =>
        .ok { tree with nodes := tree.nodes.filter fun (key, _) => !isBelow location key }

/-- The nodes strictly below a location, each with its parts from there. -/
def descendants (tree : FileTree) (location : Location) : List (List String × Node) :=
  tree.nodes.filterMap fun (key, node) =>
    if isBelow location key ∧ key.length > location.length then
      some (key.drop location.length, node)
    else none

/-- The parts, from a path down, of everything strictly below it; nothing when the path is no
directory. -/
def below (tree : FileTree) (path : Path) : List (List String × Node) :=
  match tree.isDirectory path, tree.locate path with
  | true, .ok location => tree.descendants location
  | _, _ => []

end FileTree

end ClientGen
