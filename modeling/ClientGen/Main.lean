import ClientGen.CommandLine.Outcome

/-!
# The command

The command itself: it reads the files that a command line is about, carries the command line out
on them, writes what has changed and says what there is to say. Every decision is made by
`CommandLine.execute`.
-/

namespace ClientGen

/-- The name of a location for the system. -/
def systemName (location : Location) : String :=
  "/" ++ "/".intercalate location

/-- The entries of a directory on disk; nothing when there is no such directory. -/
def entriesAt (location : Location) : IO (Option (List String)) := do
  try
    let place ← IO.FS.realPath (systemName location)
    let entries ← place.readDir
    return some (entries.toList.map (·.fileName))
  catch _ => return none

/-- What stands at a location on disk. -/
def nodeAt (location : Location) : IO (Option Node) := do
  match ← entriesAt location with
  | some _ => return some .directory
  | none =>
    try return some (.file (← IO.FS.readBinFile (systemName location)))
    catch _ => return none

/-- The tree with what stands at a location on disk. -/
def addNode (tree : FileTree) (location : Location) : IO FileTree := do
  match ← nodeAt location with
  | some node => return tree.insert location node
  | none => return tree

/-- Is a location another name of a place elsewhere? -/
def isLink (location : Location) : IO Bool := do
  let place ← IO.FS.realPath (systemName location)
  return place.toString != systemName location

/-- The tree with everything below a location on disk. Directories that are links are left out. -/
partial def addBelow (tree : FileTree) (location : Location) : IO FileTree := do
  let mut tree := tree
  for name in (← entriesAt location).getD [] do
    let inner := location ++ [name]
    match ← nodeAt inner with
    | some .directory =>
      if !(← isLink inner) then
        tree ← addBelow (tree.insert inner .directory) inner
    | some file => tree := tree.insert inner file
    | none => pure ()
  return tree

/-- The tree with what a path leads through and everything below it. -/
def addPath (tree : FileTree) (path : Path) : IO FileTree := do
  let mut tree := tree
  for count in List.range (path.parts.length + 1) do
    tree ← addNode tree (tree.locationOf ⟨path.anchor, path.parts.take count⟩)
  addBelow tree (tree.locationOf path)

/-- The tree of the files that a command line is about. -/
def readTree (line : List String) : IO FileTree := do
  let here := (Path.ofText (← IO.FS.realPath ".").toString).parts
  let mut tree : FileTree := { workingDirectory := here }
  for count in List.range here.length do
    tree := tree.insert (here.take (count + 1)) .directory
  match CommandLine.Words.read line with
  | .ok ⟨false, solution :: root :: _⟩ =>
    let solution := Path.ofText solution
    tree ← addPath tree solution
    tree ← addPath tree ((Path.ofText root).join servicesDirectory)
    match Solution.listedProjects tree (Solution.fileAt tree solution) with
    | .ok listed =>
      for (_, project) in listed do
        tree ← addPath tree project.parent
    | .error _ => pure ()
  | .ok ⟨false, [solution]⟩ => tree ← addPath tree (Path.ofText solution)
  | _ => pure ()
  return tree

/-- Write to disk what is in a tree and was not in an earlier one. -/
def writeChanges (before after : FileTree) : IO Unit := do
  for (location, node) in after.nodes do
    if before.find? location != some node then
      match node with
      | .directory => IO.FS.createDirAll (systemName location)
      | .file content => IO.FS.writeBinFile (systemName location) content

end ClientGen

/-- Carry out the command line. -/
def main (line : List String) : IO UInt32 := do
  let tree ← ClientGen.readTree line
  let outcome := ClientGen.CommandLine.execute tree line
  ClientGen.writeChanges tree outcome.tree
  (← IO.getStdout).putStr outcome.output
  (← IO.getStderr).putStr outcome.errors
  return outcome.exitCode.toUInt32
