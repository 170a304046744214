import ClientGen.Documentation
import ClientGen.TypeRef

/-!
# Services

A service is one callable endpoint, described apart from the language it was found in and the
language its client is written in: an HTTP verb, a route template, a signature with its
parameters divided by where they travel, and documentation.
-/

namespace ClientGen

/-- The HTTP verbs that a service can be called with. -/
inductive HttpVerb where
  | get | post | put | delete | patch | head | options
deriving Repr, DecidableEq, Inhabited

namespace HttpVerb

/-- All verbs. -/
def all : List HttpVerb := [get, post, put, delete, patch, head, options]

/-- The verb as it is sent. -/
def text : HttpVerb → String
  | get => "GET"
  | post => "POST"
  | put => "PUT"
  | delete => "DELETE"
  | patch => "PATCH"
  | head => "HEAD"
  | options => "OPTIONS"

/-- The name of the attribute that gives a method this verb, without the word `Attribute`. -/
def attributeName : HttpVerb → String
  | get => "HttpGet"
  | post => "HttpPost"
  | put => "HttpPut"
  | delete => "HttpDelete"
  | patch => "HttpPatch"
  | head => "HttpHead"
  | options => "HttpOptions"

/-- The verb with a given text. -/
def ofText? (s : String) : Option HttpVerb :=
  all.find? (·.text == s)

/-- The verb whose attribute has a given name. -/
def ofAttributeName? (name : String) : Option HttpVerb :=
  all.find? (·.attributeName == name)

end HttpVerb

/-- A parameter of a service. -/
structure ServiceParameter where
  /-- The name. -/
  name : String
  /-- The resolved type. -/
  type : TypeRef
  /-- May the caller leave it out? -/
  isOptional : Bool := false
  /-- Does it travel in the body? -/
  isFromBody : Bool := false
deriving Repr, DecidableEq, Inhabited

/-- The parameters of a service by where they travel. -/
structure Bindings where
  /-- The parameters in the path. -/
  uri : List ServiceParameter
  /-- The parameters in the query. -/
  query : List ServiceParameter
  /-- The parameter in the body. -/
  body : Option ServiceParameter
deriving Repr, DecidableEq, Inhabited

namespace Bindings

/-- Divide parameters by where they travel, each part in the order of declaration. A parameter
that is marked for the body travels there whatever its name; the others travel in the path when
a placeholder has their name, and in the query otherwise. When several are marked for the body,
their names are the answer. -/
def classify (parameters : List ServiceParameter) (placeholders : List String) :
    Except (List String) Bindings :=
  match parameters.filter (·.isFromBody) with
  | first :: second :: rest => .error ((first :: second :: rest).map (·.name))
  | bodies =>
    .ok {
      uri := parameters.filter fun p => !p.isFromBody && placeholders.contains p.name
      query := parameters.filter fun p => !p.isFromBody && !placeholders.contains p.name
      body := bodies.head? }

end Bindings

/-- One callable endpoint. -/
structure Service where
  /-- The HTTP verb. -/
  verb : HttpVerb
  /-- The route template. -/
  route : String
  /-- The name of the function that calls it. -/
  name : String
  /-- The resolved type of the answer. -/
  returnType : TypeRef
  /-- The parameters in the order of the signature. -/
  parameters : List ServiceParameter
  /-- The parameters in the path. -/
  uriParameters : List ServiceParameter
  /-- The parameters in the query. -/
  queryParameters : List ServiceParameter
  /-- The parameter in the body. -/
  bodyParameter : Option ServiceParameter := none
  /-- What there is to say about it. -/
  documentation : Documentation
deriving Repr, DecidableEq, Inhabited

end ClientGen
