import ClientGen.DashCase
import ClientGen.Service.Basic

/-!
# Imports of model types

A client module imports every type of the solution that its services mention. The types come from
modules named after their namespaces, the name of the product left out. Modules and the names
taken from each are listed once, in the order of their code points.
-/

namespace ClientGen.TypeScript

/-- A namespace without the name of the product at its beginning. -/
def withinProduct (scope productName : String) : String :=
  if scope = productName then ""
  else ((Text.dropStart? (productName ++ ".").toList scope.toList).map String.ofList).getD scope

/-- The module that holds the model types of a namespace. -/
def modelModule (scope productName : String) : String :=
  let parts := (Text.split '.' (withinProduct scope productName)).filter (· != "")
  "/".intercalate (parts.map dashCase)

mutual

/-- The types of the solution in a reference, itself first, then those in its arguments. -/
def declaredTypes : TypeRef → List TypeRef
  | ⟨name, scope, arguments, nullable, array⟩ =>
    let inner := declaredTypesAll arguments
    if scope = "" then inner else ⟨name, scope, arguments, nullable, array⟩ :: inner

/-- The types of the solution in a list of references. -/
def declaredTypesAll : List TypeRef → List TypeRef
  | [] => []
  | ref :: refs => declaredTypes ref ++ declaredTypesAll refs

end

/-- The types in the signature of a service: the answer, then the parameters. -/
def signatureTypes (service : Service) : List TypeRef :=
  service.returnType :: service.parameters.map (·.type)

/-- Insert a text into a strictly increasing list. -/
def insertText (s : String) : List String → List String
  | [] => [s]
  | t :: rest =>
    if s = t then t :: rest else if s < t then s :: t :: rest else t :: insertText s rest

/-- List a name under a module, in an increasing list of modules with increasing names. -/
def insertImport (module name : String) :
    List (String × List String) → List (String × List String)
  | [] => [(module, [name])]
  | (key, names) :: rest =>
    if module = key then (key, insertText name names) :: rest
    else if module < key then (module, [name]) :: (key, names) :: rest
    else (key, names) :: insertImport module name rest

/-- The imports of a module for a list of services: modules with the names taken from them. -/
def imports (services : List Service) (productName : String) : List (String × List String) :=
  let mentioned := services.flatMap fun service => declaredTypesAll (signatureTypes service)
  mentioned.foldl
    (fun found ref => insertImport (modelModule ref.scope productName) ref.name found) []

end ClientGen.TypeScript
