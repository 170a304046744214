import ClientGen.Text.Blank
import ClientGen.TypeScript.Call
import ClientGen.TypeScript.Imports
import ClientGen.TypeScript.Type

/-!
# Client modules

The text of a client module: a notice, the imports, and for each service a documentation comment
and an exported function. A parameter is documented when the method describes it; the options of
the request come last in every signature.
-/

namespace ClientGen.TypeScript

/-- The steps from a module up to the root of the application. Modules stand `folderCount` folders
below the services, and the services one folder below the root. -/
def rootPrefix (folderCount : Int) : String :=
  String.join (List.replicate (folderCount + 1).toNat "../")

/-- The notice at the top of a module. -/
def notice (productName : String) : String :=
  "/*\n    This file was generated from the " ++ productName ++ " API controllers.\n" ++
    "    Any change made here will be lost on the next generation.\n*/\n\n"

/-- The line that imports names from a model module. -/
def importLine (root module : String) (names : List String) : String :=
  "import \x7b " ++ ", ".intercalate names ++ " \x7d from \"" ++ root ++ "model/" ++ module ++
    "\";\n"

/-- The imports at the top of a module. -/
def importLines (root productName : String) (services : List Service) : String :=
  "import \x7bfetch\x7d from \"" ++ root ++ "server/fetch\";\n" ++
    String.join ((imports services productName).map fun (module, names) =>
      importLine root module names)

/-- The line that documents a parameter, if there is a description. -/
def paramLine (documentation : Documentation) (p : ServiceParameter) : String :=
  match documentation.descriptionFor p.name with
  | some description => " * @param " ++ p.name ++ " " ++ Text.collapse description ++ "\n"
  | none => ""

/-- The documentation comment of a service. -/
def comment (service : Service) : String :=
  "/**\n * " ++ service.documentation.summary ++ "\n" ++
    String.join (service.parameters.map (paramLine service.documentation)) ++
    " * @param options Fetch options.\n */\n"

/-- A parameter in the signature of a function, with what parts it from the next one. -/
def parameterText (p : ServiceParameter) : String :=
  p.name ++ (if p.isOptional then "?" else "") ++ ": " ++ spell p.type ++ ", "

/-- The exported function that calls a service. -/
def functionText (service : Service) : String :=
  "export function " ++ service.name ++ "(" ++
    String.join (service.parameters.map parameterText) ++
    "options: RequestInit = \x7b\x7d): Promise<" ++ spell service.returnType ++ "> \x7b\n" ++
    "    return fetch(\"" ++ service.verb.text ++ "\", \x60" ++ url service ++ "\x60, " ++
    requestInit service ++ ", options);\n\x7d\n"

/-- The text of a service in a module. -/
def serviceText (service : Service) : String :=
  "\n" ++ comment service ++ functionText service

/-- The text of a client module. -/
def render (productName : String) (folderCount : Int) (services : List Service) : String :=
  notice productName ++ importLines (rootPrefix folderCount) productName services ++
    String.join (services.map serviceText)

end ClientGen.TypeScript
