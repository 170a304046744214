import ClientGen.DashCase
import ClientGen.Path

/-!
# Paths of client modules

Where the module of a controller goes, below the services of the application. The folders of the
controller's document are kept but for the first, which holds all controllers of a project, and
all names are dash-cased. With several front ends a folder for the project comes first.
-/

namespace ClientGen

/-- The path of a module below the services, with the number of folders it was given. -/
structure ModulePath where
  /-- The path. -/
  path : String
  /-- The number of folders. -/
  folderCount : Nat
deriving Repr, DecidableEq, Inhabited

namespace ModulePath

/-- The word in the names of controllers and their documents. -/
def controllerMarker : String := "Controller"

/-- The ending of module files. -/
def defaultExtension : String := ".ts"

/-- The folder of a project: its second name between dots, or the only one. -/
def projectSegment (projectName : String) : String :=
  match Text.split '.' projectName with
  | _ :: second :: _ => dashCase second
  | [only] => dashCase only
  | [] => dashCase projectName

/-- The name of a controller's module, without the word `Controller` at its end. -/
def controllerBaseName (className : String) : String :=
  match Text.dropEnd? controllerMarker className with
  | some "" | none => dashCase className
  | some base => dashCase base

/-- The folders and the file name of a module. -/
def segments (projectName : String) (folders : List String) (className : String)
    (severalFrontEnds : Bool) (extension : String := defaultExtension) : List String :=
  (if severalFrontEnds then [projectSegment projectName] else []) ++
    (folders.drop 1).map dashCase ++ [controllerBaseName className ++ extension]

/-- The path of the module of a controller. -/
def derive (projectName : String) (folders : List String) (className : String)
    (severalFrontEnds : Bool) (extension : String := defaultExtension) : ModulePath where
  path := (Path.ofTexts (segments projectName folders className severalFrontEnds extension)).text
  folderCount := (if severalFrontEnds then 1 else 0) + (folders.length - 1)

end ModulePath

end ClientGen
