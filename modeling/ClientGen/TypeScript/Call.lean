import ClientGen.Route
import ClientGen.Service.Basic

/-!
# The call of a service

The two texts that carry the parameters of a service in a rendered call: the address, which is
the body of a template literal with a substitution for every placeholder that is bound to a
parameter in the path, and the options of the request, which name the body and the query.
-/

namespace ClientGen.TypeScript

/-- The text of a piece of a route in an address: a bound placeholder becomes a substitution,
anything else stays. -/
def pieceText (bound : List String) : Route.Piece → List Char
  | .plain c => [c]
  | .placeholder body =>
    let name := String.ofList (Route.placeholderChars body)
    if bound.contains name then '$' :: '\x7b' :: name.toList ++ ['\x7d']
    else (Route.Piece.placeholder body).chars

/-- A route without the tilde and slashes that mark it as absolute. -/
def relativeRoute (route : String) : List Char :=
  route.toList.dropWhile fun c => c == '~' || c == '/'

/-- The address of a service, relative to the application. -/
def url (service : Service) : String :=
  let bound := service.uriParameters.map (·.name)
  String.ofList
    ('.' :: '/' :: (Route.pieces (relativeRoute service.route)).flatMap (pieceText bound))

/-- The options of the request of a service. -/
def requestInit (service : Service) : String :=
  let body := match service.bodyParameter with
    | some p => ["body: " ++ p.name]
    | none => []
  let query := match service.queryParameters with
    | [] => []
    | ps => ["query: \x7b" ++ ", ".intercalate (ps.map (·.name)) ++ "\x7d"]
  "\x7b" ++ ", ".intercalate (body ++ query) ++ "\x7d"

end ClientGen.TypeScript
