import ClientGen.Schema.Project
import ClientGen.Service.Basic

/-!
# The schema of services

How services are written in a document. All parts of a service but its body parameter are
required; an HTTP verb has to be written exactly as it is sent.
-/

namespace ClientGen.Schema

/-- A parameter of a service. -/
def serviceParameter : Check ServiceParameter :=
  object fun fields =>
    ServiceParameter.mk
      <$> required "name" text fields
      <*> required "type" typeRef fields
      <*> optional "is_optional" bool false fields
      <*> optional "is_from_body" bool false fields

/-- The documentation of a service. -/
def documentation : Check Documentation :=
  object fun fields =>
    Documentation.mk
      <$> required "summary" text fields
      <*> optional "parameters" (list textPair) [] fields

/-- An HTTP verb. -/
def verb : Check HttpVerb
  | .text s =>
    match HttpVerb.ofText? s with
    | some verb => .valid verb
    | none => .wrong .notAllowed
  | _ => .wrong .notAllowed

/-- A service. -/
def service : Check Service :=
  object fun fields =>
    Service.mk
      <$> required "verb" verb fields
      <*> required "route" text fields
      <*> required "name" text fields
      <*> required "return_type" typeRef fields
      <*> required "parameters" (list serviceParameter) fields
      <*> required "uri_parameters" (list serviceParameter) fields
      <*> required "query_parameters" (list serviceParameter) fields
      <*> optional "body_parameter" (nullable serviceParameter) none fields
      <*> required "documentation" documentation fields

end ClientGen.Schema
