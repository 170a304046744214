import ClientGen.FileTree.Error
import ClientGen.Route

/-!
# Errors of one controller

Why the module of a controller is not generated. Such an error is reported and the run goes on
with the next controller.
-/

namespace ClientGen

/-- Why a controller's module is not generated. -/
inductive GenerationError where
  /-- The method has no summary. -/
  | missingDocumentation (method : String)
  /-- No attribute of the method gives an HTTP verb. -/
  | missingVerb (method : String)
  /-- Several attributes of the method give an HTTP verb. -/
  | ambiguousVerb (method : String) (attributes : List String)
  /-- Several parameters of the method are bound to the body. -/
  | ambiguousBody (method : String) (parameters : List String)
  /-- The route, if there is one, has a fault; the method is empty when it is not known. -/
  | malformedRoute (route : Option String) (fault : Route.Fault) (method : String)
  /-- A base class of the controller is not declared in the solution. -/
  | unresolvableBase (controller : String) (baseType : String)
  /-- The document of the controller declares no class. -/
  | missingClass (document : String)
  /-- The system refuses to write the module. -/
  | notWritten (path : String) (fault : FileFault) (refusedPath : String)
deriving Repr, DecidableEq, Inhabited

namespace GenerationError

/-- The message of an error. -/
def message : GenerationError → String
  | missingDocumentation method => "Method '" ++ method ++ "' has no <summary> documentation."
  | missingVerb method => "Method '" ++ method ++ "' has no HTTP verb attribute."
  | ambiguousVerb method attributes =>
    "Method '" ++ method ++ "' has several HTTP verb attributes: " ++
      ", ".intercalate attributes ++ "."
  | ambiguousBody method parameters =>
    "Method '" ++ method ++ "' has several [FromBody] parameters: " ++
      ", ".intercalate parameters ++ "."
  | malformedRoute route fault method =>
    "Malformed route " ++ (match route with | some text => Text.quoted text | none => "None") ++
      (if method = "" then "" else " on method '" ++ method ++ "'") ++ ": " ++
      fault.message ++ "."
  | unresolvableBase controller baseType =>
    "Base controller '" ++ baseType ++ "' of '" ++ controller ++
      "' is not declared in the loaded solution."
  | missingClass document => "Document '" ++ document ++ "' does not declare any class."
  | notWritten path fault refusedPath =>
    "Could not write '" ++ path ++ "': " ++ fault.message refusedPath

end GenerationError

end ClientGen
