import ClientGen.Controller
import ClientGen.FileTree.Basic
import ClientGen.ModulePath
import ClientGen.TypeScript.Module

/-!
# Generation runs

A run writes one client module for every controller document of the front ends of a product, in
the order of projects and documents. A controller that fails is reported and leaves its earlier
module as it was; the others are still generated. Only one thing ends a run early: a module path
with a NUL character, which no file can have.
-/

namespace ClientGen

/-- Where the services of an application go, below its root. -/
def servicesDirectory : Path := ⟨"", ["app", "services"]⟩

/-- What a run is about. -/
structure Generator where
  /-- The solution to read. -/
  solution : Solution
  /-- The directory that the modules are written below. -/
  outputRoot : Path
  /-- The beginning of the assembly names of the front ends. -/
  productName : String

/-- What a run has done so far. -/
structure Run where
  /-- The files as they are now. -/
  tree : FileTree
  /-- The paths of the modules written, in order. -/
  written : List String := []
  /-- The controllers that failed, by key, with the message of their last failure. -/
  failures : List (String × String) := []
  /-- The progress reported. -/
  progress : List String := []
  /-- The errors reported. -/
  errors : List String := []
  /-- Did a path with a NUL character end the run? -/
  aborted : Bool := false

namespace Run

/-- Did no controller fail? -/
def succeeded (run : Run) : Bool :=
  run.failures.isEmpty

/-- Set the message under a key; a new key goes to the end. -/
def setFailure (key message : String) : List (String × String) → List (String × String)
  | [] => [(key, message)]
  | (k, old) :: rest =>
    if k = key then (k, message) :: rest else (k, old) :: setFailure key message rest

end Run

/-- The key of a document in a report: project, folders and file name between slashes. -/
def documentKey (project : Project) (document : Document) : String :=
  "/".intercalate (project.name :: document.folders ++ [document.name])

/-- Does the name of a document say that it holds a controller? -/
def Document.isController (document : Document) : Bool :=
  Text.contains ModulePath.controllerMarker document.name

/-- The name of a document in error reports: its first class, or the file. -/
def Document.reportName (document : Document) : String :=
  match document.classes with
  | c :: _ => c.name
  | [] => document.name

namespace Generator

/-- The generator for an application at a root. -/
def new (solution : Solution) (applicationRoot : Path) (productName : String) : Generator :=
  ⟨solution, applicationRoot.join servicesDirectory, productName⟩

/-- The projects to generate modules for. -/
def frontEnds (g : Generator) : List Project :=
  g.solution.frontEnds g.productName

/-- The controller documents of some projects, in order. -/
def controllersOf (projects : List Project) : List (Project × Document) :=
  projects.flatMap fun project =>
    (project.documents.filter (·.isController)).map fun document => (project, document)

/-- The text of the module of a controller class. -/
def moduleText (g : Generator) (folderCount : Nat) (controller : ClassDecl) :
    Except GenerationError String :=
  (controller.services g.solution).map (TypeScript.render g.productName folderCount)

/-- Report that a controller failed. -/
def reportFailure (project : Project) (document : Document) (e : GenerationError) (run : Run) :
    Run :=
  { run with
    failures := Run.setFailure (documentKey project document) e.message run.failures
    errors := run.errors ++ ["Error in " ++ document.reportName ++ ": " ++ e.message] }

/-- Write a module and report how that went. -/
def writeModule (g : Generator) (project : Project) (document : Document) (path text : String)
    (run : Run) : Run :=
  let file := g.outputRoot.join (Path.ofText path)
  match run.tree.save file text.toUTF8 with
  | (.ok (), tree) => { run with tree, written := run.written ++ [path] }
  | (.error (.refused fault refusedPath), tree) =>
    reportFailure project document (.notWritten file.text fault refusedPath) { run with tree }
  | (.error .nulCharacter, tree) => { run with tree, aborted := true }

/-- Generate the module of one document. -/
def attempt (g : Generator) (several : Bool) (run : Run) (project : Project)
    (document : Document) : Run :=
  match document.classes with
  | [] => reportFailure project document (.missingClass document.name) run
  | controller :: _ =>
    let module := ModulePath.derive project.name document.folders controller.name several
    let run := { run with progress := run.progress ++ ["Generating " ++ module.path] }
    match g.moduleText module.folderCount controller with
    | .error e => reportFailure project document e run
    | .ok text => g.writeModule project document module.path text run

/-- Generate the modules of several documents, one after the other. -/
def attemptAll (g : Generator) (several : Bool) : List (Project × Document) → Run → Run
  | [], run => run
  | (project, document) :: rest, run =>
    let run := g.attempt several run project document
    if run.aborted then run else g.attemptAll several rest run

/-- The message for a product without front ends. -/
def noFrontEnds (productName : String) : String :=
  "No front-end project matches '" ++ productName ++ "*FrontEnd'."

/-- Generate the modules of all controllers; nothing when the product has no front end. -/
def generate (g : Generator) (tree : FileTree) : Option Run :=
  match g.frontEnds with
  | [] => none
  | projects =>
    some (g.attemptAll (decide (projects.length > 1)) (controllersOf projects) { tree })

end Generator

end ClientGen
