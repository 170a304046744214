import ClientGen.CommandLine.Request
import ClientGen.Generation
import ClientGen.Loading.Format

/-!
# Outcomes

What the command does with the files and what it says. It ends with code 0 when everything asked
for was done, with 2 when the command line is not understood, and otherwise with 1. Which files it
finds and leaves is part of the outcome.
-/

namespace ClientGen.CommandLine

/-- How a command ends. -/
structure Outcome where
  /-- The files as they are afterwards. -/
  tree : FileTree
  /-- The code it ends with. -/
  exitCode : Nat := 0
  /-- What it says. -/
  output : String := ""
  /-- What it says about errors. -/
  errors : String := ""
  /-- A fault that ended it without a message. -/
  fault : Option LoadFault := none

/-- The text of some lines. -/
def textOfLines (lines : List String) : String :=
  String.join (lines.map (· ++ "\n"))

/-- The line that announces what is loaded. -/
def loadingLine (path : Path) (format : SolutionFormat) : String :=
  "Loading " ++ path.text ++ " (format: " ++ format.text ++ ")...\n"

namespace Outcome

/-- The outcome when a solution is not loaded. -/
def ofLoadFault (tree : FileTree) (output : String) : LoadFault → Outcome
  | .refused e => { tree, output, exitCode := 1, errors := errorLine e.message }
  | fault => { tree, output, exitCode := 1, fault := some fault }

/-- The outcome of a run. -/
def ofRun (outputRoot : Path) (output : String) (run : Run) : Outcome :=
  let output := output ++ textOfLines run.progress
  let errors := textOfLines run.errors
  if run.aborted then
    { tree := run.tree, output, errors, exitCode := 1, fault := some .nulCharacter }
  else
    let output := output ++ "Generated " ++ toString run.written.length ++ " files in " ++
      outputRoot.text ++ "\n"
    if run.succeeded then { tree := run.tree, output, errors }
    else
      { tree := run.tree, output, exitCode := 1
        errors := errors ++ toString run.failures.length ++ " controller(s) failed.\n" }

end Outcome

/-- Carry out a request. -/
def Request.perform (request : Request) (tree : FileTree) : Outcome :=
  match SolutionFormat.detect tree request.solutionPath with
  | .error fault => .ofLoadFault tree "" fault
  | .ok format =>
    let output := loadingLine request.solutionPath format
    match Solution.load tree request.solutionPath with
    | .error fault => .ofLoadFault tree output fault
    | .ok solution =>
      let generator := Generator.new solution request.applicationRoot request.productName
      match generator.generate tree with
      | some run => .ofRun generator.outputRoot output run
      | none =>
        { tree, output, exitCode := 1
          errors := errorLine (Generator.noFrontEnds request.productName) }

/-- Carry out a command line. -/
def execute (tree : FileTree) (line : List String) : Outcome :=
  match Command.read tree line with
  | .ok .help => { tree, output := helpText }
  | .ok (.generate request) => request.perform tree
  | .error (.usage e) => { tree, exitCode := 2, errors := e.report }
  | .error (.fault fault) => { tree, exitCode := 1, fault := some fault }

end ClientGen.CommandLine
