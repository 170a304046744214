import ClientGen.GenerationError
import ClientGen.Service.Basic
import ClientGen.Solution

/-!
# From methods to services

A method becomes a service when it has a summary, exactly one attribute with an HTTP verb, a
route template in that attribute, a route that can be read, and at most one parameter for the
body. The conditions are tried in this order and the first that fails is the error. A method that
answers with a redirect is no endpoint for a client and becomes nothing, whatever else it lacks.
-/

namespace ClientGen

/-- The types that only say an answer comes later. -/
def asyncWrappers : List String := ["Task", "ValueTask"]

/-- The type of the answer itself: a wrapper with one argument gives its argument. -/
def unwrapAsync (returnType : TypeRef) : TypeRef :=
  match returnType.arguments with
  | [answer] => if asyncWrappers.contains returnType.name then answer else returnType
  | _ => returnType

/-- The word in the names of types that redirect a browser. -/
def redirectMarker : String := "Redirect"

/-- The attributes that bind a parameter to the body. -/
def fromBodyAttributes : List String := ["FromBody", "FromBodyAttribute"]

namespace Attribute

/-- The name of an attribute without its namespace. -/
def shortName (a : Attribute) : String :=
  Text.afterLast '.' a.name

/-- The HTTP verb an attribute gives, with or without the word `Attribute` in its name. -/
def verb? (a : Attribute) : Option HttpVerb :=
  HttpVerb.ofAttributeName? ((Text.dropEnd? "Attribute" a.shortName).getD a.shortName)

/-- The route template of a verb attribute of the named method. -/
def route (a : Attribute) (method : String) : Except GenerationError String :=
  match a.arguments with
  | [] => .error (.malformedRoute none (.noTemplate a.name) method)
  | none :: _ => .error (.malformedRoute none (.notLiteral a.name) method)
  | some template :: _ => .ok template

end Attribute

namespace Method

/-- The attributes that give an HTTP verb, each with its verb. -/
def verbAttributes (method : Method) : List (HttpVerb × Attribute) :=
  method.attributes.filterMap fun a => a.verb?.map fun verb => (verb, a)

/-- The one attribute that gives the method its verb. -/
def verb (method : Method) : Except GenerationError (HttpVerb × Attribute) :=
  match method.verbAttributes with
  | [] => .error (.missingVerb method.name)
  | [found] => .ok found
  | several => .error (.ambiguousVerb method.name (several.map (·.2.name)))

/-- The documentation of a method; the name is the one to report. -/
def documentationOf (elements : Option (List DocElement)) (method : String) :
    Except GenerationError Documentation :=
  match Documentation.ofElements? (elements.getD []) with
  | some documentation => .ok documentation
  | none => .error (.missingDocumentation method)

end Method

namespace MethodParameter

/-- The parameter of a service that a parameter of a method becomes. -/
def toService (solution : Solution) (p : MethodParameter) : ServiceParameter where
  name := p.name
  type := solution.resolve p.type
  isOptional := p.hasDefault
  isFromBody := p.attributes.any fromBodyAttributes.contains

end MethodParameter

namespace Method

/-- The resolved type of what a method answers. -/
def answerType (solution : Solution) (method : Method) : TypeRef :=
  unwrapAsync (solution.resolve method.returnType)

/-- Does a method answer with a redirect? -/
def isRedirect (solution : Solution) (method : Method) : Bool :=
  Text.contains redirectMarker (method.answerType solution).name

/-- Divide the parameters of the named method. -/
def bind (parameters : List ServiceParameter) (placeholders : List String) (method : String) :
    Except GenerationError Bindings :=
  match Bindings.classify parameters placeholders with
  | .ok bindings => .ok bindings
  | .error names => .error (.ambiguousBody method names)

/-- The placeholders of the route of the named method. -/
def placeholders (route method : String) : Except GenerationError (List String) :=
  match Route.placeholders route with
  | .ok names => .ok names
  | .error fault => .error (.malformedRoute (some route) fault method)

/-- The service that a method becomes when it is not a redirect. -/
def toEndpoint (solution : Solution) (method : Method) : Except GenerationError Service := do
  let documentation ← documentationOf method.documentation method.name
  let (verb, source) ← method.verb
  let route ← source.route method.name
  let parameters := method.parameters.map (·.toService solution)
  let names ← placeholders route method.name
  let bindings ← bind parameters names method.name
  return {
    verb, route, parameters, documentation
    name := method.name
    returnType := method.answerType solution
    uriParameters := bindings.uri
    queryParameters := bindings.query
    bodyParameter := bindings.body }

/-- The service a method becomes, or nothing for a redirect. -/
def toService (solution : Solution) (method : Method) : Except GenerationError (Option Service) :=
  if method.isRedirect solution then .ok none else (method.toEndpoint solution).map some

end Method

end ClientGen
