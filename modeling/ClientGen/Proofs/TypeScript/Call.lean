import ClientGen.Proofs.Service.Outcome
import ClientGen.TypeScript.Call
import Mathlib.Data.List.Nodup
import Mathlib.Data.List.TakeWhile

/-!
# How parameters travel

Every parameter of a service reaches the server through one channel of the rendered call: the
address, the body or the query. The channels are chosen by the placeholders of the whole route,
while the address is read again from the route without its leading tilde and slashes; the two
readings find the same placeholders, because what is left out holds no brace.
-/

namespace ClientGen.TypeScript

open Route (isBrace placeholderName)

/-- How the text of an address comes from the text of a route, and the names inserted on the way:
a placeholder that binds one of the given names becomes a substitution of it, and every other
character stays. -/
inductive Substitutes (bound : List String) : List Char → List String → List Char → Prop
  /-- Nothing is left to read. -/
  | done : Substitutes bound [] [] []
  /-- A character around the placeholders stays. -/
  | plain {c : Char} {route address : List Char} {names : List String} (text : isBrace c = false)
    (rest : Substitutes bound route names address) :
    Substitutes bound (c :: route) names (c :: address)
  /-- A placeholder of a bound name becomes a substitution. -/
  | inserted {body route address : List Char} {names : List String}
    (closed : ∀ c ∈ body, isBrace c = false) (known : placeholderName (String.ofList body) ∈ bound)
    (rest : Substitutes bound route names address) :
    Substitutes bound ('\x7b' :: (body ++ '\x7d' :: route))
      (placeholderName (String.ofList body) :: names)
      ('$' :: '\x7b' :: ((placeholderName (String.ofList body)).toList ++ '\x7d' :: address))
  /-- Any other placeholder stays. -/
  | kept {body route address : List Char} {names : List String}
    (closed : ∀ c ∈ body, isBrace c = false) (unknown : placeholderName (String.ofList body) ∉ bound)
    (rest : Substitutes bound route names address) :
    Substitutes bound ('\x7b' :: (body ++ '\x7d' :: route)) names
      ('\x7b' :: (body ++ '\x7d' :: address))

/-- The options of a request with these names in the body and in the query. -/
inductive Requests : List String → List String → String → Prop
  /-- There is nothing to send. -/
  | nothing : Requests [] [] "\x7b\x7d"
  /-- There is a body only. -/
  | body (name : String) : Requests [name] [] ("\x7bbody: " ++ name ++ "\x7d")
  /-- There is a query only. -/
  | query (name : String) (names : List String) :
    Requests [] (name :: names) ("\x7bquery: \x7b" ++ ", ".intercalate (name :: names) ++ "\x7d\x7d")
  /-- There are both. -/
  | both (sent name : String) (names : List String) :
    Requests [sent] (name :: names) ("\x7bbody: " ++ sent ++ ", query: \x7b" ++
      ", ".intercalate (name :: names) ++ "\x7d\x7d")

/-- A call of a service transmits its parameters: of the placeholders of the route, these names are
inserted in the address, and these others are in the body and in the query. -/
structure Transmits (service : Service) (names inserted body query : List String) : Prop where
  /-- The names are the placeholders of the whole route, left to right. -/
  listed : Route.placeholders service.route = .ok names
  /-- The address is the route without its leading tilde and slashes, with the path parameters
  substituted. -/
  address : ∃ lead route text, service.route.toList = lead ++ route ∧
    (∀ c ∈ lead, c = '~' ∨ c = '/') ∧ (∀ c ∈ route.head?, c ≠ '~' ∧ c ≠ '/') ∧
    Substitutes (service.uriParameters.map (·.name)) route inserted text ∧
    (url service).toList = '.' :: '/' :: text
  /-- The names inserted are the placeholders that are path parameters. -/
  filtered : inserted =
    names.filter fun name => decide (name ∈ service.uriParameters.map (·.name))
  /-- A path parameter is inserted as often as it is a placeholder, and at least once. -/
  counted : ∀ p ∈ service.uriParameters,
    inserted.count p.name = names.count p.name ∧ 0 < inserted.count p.name
  /-- The options of the request name the body and the query. -/
  request : Requests body query (requestInit service)
  /-- In the body is the parameter that is marked for it. -/
  marked : body = (service.parameters.filter (·.isFromBody)).map (·.name)
  /-- In the query are the parameters without a mark or a placeholder, in the order of the
  signature. -/
  unplaced : query = (service.parameters.filter
    fun p => !p.isFromBody && decide (p.name ∉ names)).map (·.name)
  /-- Every parameter is in exactly one of the three. -/
  once : ∀ p ∈ service.parameters,
    [inserted, body, query].countP (fun channel => decide (p.name ∈ channel)) = 1

/-! ### The address -/

/-- The names that pieces insert when these names are bound. -/
def insertedNames (bound : List String) (parts : List Route.Piece) : List String :=
  (parts.filterMap Route.Piece.name?).filter fun name => decide (name ∈ bound)

/-- Writing down proper pieces, with bound placeholders substituted, substitutes in their text. -/
theorem substitutes_flatMap (bound : List String) {parts : List Route.Piece}
    (hproper : ∀ piece ∈ parts, piece.Proper) :
    Substitutes bound (parts.flatMap Route.Piece.chars) (insertedNames bound parts)
      (parts.flatMap (pieceText bound)) := by
  induction parts with
  | nil => exact .done
  | cons piece parts ih =>
    have hrest := ih fun p hp => hproper p (List.mem_cons_of_mem _ hp)
    have hpiece := hproper piece List.mem_cons_self
    cases piece with
    | plain c => exact .plain hpiece hrest
    | placeholder body =>
      have hname : String.ofList (Route.placeholderChars body) =
          placeholderName (String.ofList body) := by
        rw [placeholderName, String.toList_ofList]
      by_cases hbound : placeholderName (String.ofList body) ∈ bound
      · have h := Substitutes.inserted hpiece hbound hrest
        simpa [insertedNames, Route.Piece.chars, Route.Piece.name?, pieceText, hname, hbound] using h
      · have h := Substitutes.kept hpiece hbound hrest
        simpa [insertedNames, Route.Piece.chars, Route.Piece.name?, pieceText, hname, hbound] using h

/-- Characters that are no braces are pieces of their own, before the pieces of the rest. -/
theorem pieces_append_plain {lead : List Char} (hlead : ∀ c ∈ lead, isBrace c = false)
    (route : List Char) :
    Route.pieces (lead ++ route) = lead.map Route.Piece.plain ++ Route.pieces route := by
  induction lead with
  | nil => rfl
  | cons c lead ih =>
    rw [List.cons_append, Route.pieces_cons_plain (hlead c List.mem_cons_self),
      ih fun d hd => hlead d (List.mem_cons_of_mem _ hd)]
    rfl

/-- The marks that make a route absolute hold no brace, so leaving them out keeps every
placeholder. -/
theorem exists_lead (route : String) :
    ∃ lead, route.toList = lead ++ relativeRoute route ∧ (∀ c ∈ lead, c = '~' ∨ c = '/') ∧
      Route.pieces route.toList = lead.map Route.Piece.plain ++ Route.pieces (relativeRoute route) := by
  let mark := fun c : Char => c == '~' || c == '/'
  have hsplit : route.toList = route.toList.takeWhile mark ++ relativeRoute route :=
    List.takeWhile_append_dropWhile.symm
  have hmark (c : Char) (hc : c ∈ route.toList.takeWhile mark) : c = '~' ∨ c = '/' := by
    simpa [mark] using List.mem_takeWhile_imp hc
  refine ⟨_, hsplit, hmark, ?_⟩
  conv_lhs => rw [hsplit]
  apply pieces_append_plain
  intro c hc
  rcases hmark c hc with rfl | rfl <;> rfl

/-- What is left of a route does not begin with a mark. -/
theorem head?_relativeRoute (route : String) :
    ∀ c ∈ (relativeRoute route).head?, c ≠ '~' ∧ c ≠ '/' := by
  intro c hc
  have h := List.head?_dropWhile_not (fun c => c == '~' || c == '/') route.toList
  rw [← relativeRoute, Option.mem_def.mp hc] at h
  simpa using h

/-- The address of a service substitutes its path parameters, and inserts of the placeholders of its
route those that are path parameters. -/
theorem url_substitutes {service : Service} {names : List String}
    (hnames : Route.placeholders service.route = .ok names) :
    let bound := service.uriParameters.map (·.name)
    ∃ lead route text, service.route.toList = lead ++ route ∧
      (∀ c ∈ lead, c = '~' ∨ c = '/') ∧ (∀ c ∈ route.head?, c ≠ '~' ∧ c ≠ '/') ∧
      Substitutes bound route (names.filter fun name => decide (name ∈ bound)) text ∧
      (url service).toList = '.' :: '/' :: text := by
  intro bound
  obtain ⟨⟨hbalanced, _⟩, rfl⟩ := Route.placeholders_eq_ok_iff.mp hnames
  obtain ⟨lead, hlead, hmark, hpieces⟩ := exists_lead service.route
  have hproper (piece : Route.Piece) (h : piece ∈ Route.pieces (relativeRoute service.route)) :
      piece.Proper := by
    refine Route.proper_of_mem_pieces ((Route.any_isStrayBrace_pieces _).mpr hbalanced) ?_
    rw [hpieces]
    exact List.mem_append_right _ h
  -- The characters left out name nothing.
  have hlost : (lead.map Route.Piece.plain).filterMap Route.Piece.name? = [] := by
    rw [List.filterMap_map]
    exact List.filterMap_eq_nil_iff.mpr fun _ _ => rfl
  have hsub := substitutes_flatMap bound hproper
  rw [Route.flatMap_chars_pieces] at hsub
  rw [hpieces, List.filterMap_append, hlost, List.nil_append]
  exact ⟨lead, relativeRoute service.route, _, hlead, hmark, head?_relativeRoute _, hsub, by simp [url, bound]⟩

/-! ### The options of the request -/

/-- The options of a request name its body parameter and its query parameters. -/
theorem requestInit_requests (service : Service) :
    Requests (service.bodyParameter.toList.map (·.name)) (service.queryParameters.map (·.name))
      (requestInit service) := by
  rw [requestInit]
  rcases service.bodyParameter with _ | sent <;> rcases service.queryParameters with _ | ⟨p, ps⟩
  · exact .nothing
  · have htext := Requests.query p.name (ps.map (·.name))
    rw [show "\x7bquery: \x7b" = "\x7b" ++ "query: \x7b" by decide,
      show "\x7d\x7d" = "\x7d" ++ "\x7d" by decide] at htext
    simpa only [Option.toList_none, List.map_nil, List.map_cons, List.nil_append,
      String.intercalate_singleton, String.append_assoc] using htext
  · exact .body sent.name
  · have htext := Requests.both sent.name p.name (ps.map (·.name))
    rw [show "\x7bbody: " = "\x7b" ++ "body: " by decide,
      show ", query: \x7b" = ", " ++ "query: \x7b" by decide,
      show "\x7d\x7d" = "\x7d" ++ "\x7d" by decide] at htext
    simpa only [Option.toList_some, List.map_nil, List.map_cons, List.singleton_append,
      String.intercalate_cons_cons, String.intercalate_singleton, String.append_assoc] using htext

/-! ### One channel for each parameter -/

/-- A list of at most one member is its first member. -/
theorem toList_head? {α : Type} {values : List α} (h : values.length ≤ 1) :
    values.head?.toList = values := by
  rcases values with _ | ⟨a, _ | ⟨b, rest⟩⟩
  · rfl
  · rfl
  · simp at h

/-- Of parameters with distinct names, those that meet a condition are told by their names. -/
theorem mem_map_name_filter {parameters : List ServiceParameter}
    (distinct : (parameters.map (·.name)).Nodup) {p : ServiceParameter} (hp : p ∈ parameters)
    (condition : ServiceParameter → Bool) :
    p.name ∈ (parameters.filter condition).map (·.name) ↔ condition p = true := by
  constructor
  · intro h
    obtain ⟨q, hq, hname⟩ := List.mem_map.mp h
    obtain ⟨hq, hcondition⟩ := List.mem_filter.mp hq
    rwa [← List.inj_on_of_nodup_map distinct hq hp hname]
  · exact fun h => List.mem_map.mpr ⟨p, List.mem_filter.mpr ⟨hp, h⟩, rfl⟩

/-- Every parameter of a service whose parameters have distinct names is transmitted through exactly
one channel of its call: path parameters in the address, as often as the route has a placeholder for
them, and the others in the body or in the query. -/
theorem transmits_of_toService {solution : Solution} {method : Method} {service : Service}
    (made : method.toService solution = .ok (some service))
    (distinct : (method.parameters.map (·.name)).Nodup) :
    ∃ names inserted body query, Transmits service names inserted body query := by
  obtain ⟨hparameters, hbodies, names, hnames, huri, hquery, hbody⟩ :=
    Method.parameters_of_toService made
  have hdistinct : (service.parameters.map (·.name)).Nodup := by
    rw [hparameters, List.map_map]
    exact distinct
  have hplaced (p : ServiceParameter) (hp : p ∈ service.uriParameters) : p.name ∈ names := by
    rw [huri] at hp
    simpa using (Bool.and_eq_true_iff.mp (List.mem_filter.mp hp).2).2
  refine ⟨names, _, _, _, {
    listed := hnames
    address := url_substitutes hnames
    filtered := rfl
    counted := ?_
    request := requestInit_requests service
    marked := by rw [hbody, toList_head? hbodies]
    unplaced := by simp [hquery]
    once := ?_ }⟩
  · intro p hp
    have hcount : (names.filter fun name =>
        decide (name ∈ service.uriParameters.map (·.name))).count p.name = names.count p.name := by
      rw [List.count_filter]
      exact decide_eq_true (List.mem_map_of_mem hp)
    exact ⟨hcount, hcount ▸ List.count_pos_iff.mpr (hplaced p hp)⟩
  · intro p hp
    have hinserted : p.name ∈ names.filter
        (fun name => decide (name ∈ service.uriParameters.map (·.name))) ↔
          (!p.isFromBody && names.contains p.name) = true := by
      rw [List.mem_filter, decide_eq_true_iff, huri, mem_map_name_filter hdistinct hp]
      exact and_iff_right_of_imp fun h => by simpa using (Bool.and_eq_true_iff.mp h).2
    have hsent : p.name ∈ service.bodyParameter.toList.map (·.name) ↔ p.isFromBody = true := by
      rw [hbody, toList_head? hbodies, mem_map_name_filter hdistinct hp]
    have hasked : p.name ∈ service.queryParameters.map (·.name) ↔
        (!p.isFromBody && !names.contains p.name) = true := by
      rw [hquery, mem_map_name_filter hdistinct hp]
    simp only [List.countP_cons, List.countP_nil, hinserted, hsent, hasked, Bool.decide_eq_true]
    cases p.isFromBody <;> cases names.contains p.name <;> rfl

/-- A method with parameters for every channel: its absolute route lists one of them twice and has a
placeholder for none of them. -/
def saveOrder : Method where
  name := "Save"
  returnType := { name := "Task" }
  attributes := [⟨"HttpPut", [some "~/shops/\x7bshop:int\x7d/\x7b*path\x7d/\x7bshop\x7d/\x7border\x7d"]⟩]
  parameters := [
    { name := "page", type := { name := "int" } },
    { name := "shop", type := { name := "int" } },
    { name := "order", type := { name := "Order" }, attributes := ["FromBody"] },
    { name := "path", type := { name := "string" } }]
  documentation := some [{ tag := "summary", text := "Saves an order." }]

/-- The service that the method becomes. -/
def savedOrder : Service :=
  let page : ServiceParameter := { name := "page", type := { name := "int" } }
  let shop : ServiceParameter := { name := "shop", type := { name := "int" } }
  let order : ServiceParameter := { name := "order", type := { name := "Order" }, isFromBody := true }
  let path : ServiceParameter := { name := "path", type := { name := "string" } }
  { verb := .put
    route := "~/shops/\x7bshop:int\x7d/\x7b*path\x7d/\x7bshop\x7d/\x7border\x7d"
    name := "Save"
    returnType := { name := "Task" }
    parameters := [page, shop, order, path]
    uriParameters := [shop, path]
    queryParameters := [page]
    bodyParameter := some order
    documentation := { summary := "Saves an order." } }

/-- The parameters of that method have distinct names, so each travels once. -/
theorem transmits_savedOrder :
    saveOrder.toService (Solution.ofProjects []) = .ok (some savedOrder) ∧
      (saveOrder.parameters.map (·.name)).Nodup ∧
      ∃ names inserted body query, Transmits savedOrder names inserted body query := by
  have made : saveOrder.toService (Solution.ofProjects []) = .ok (some savedOrder) := by decide
  have distinct : (saveOrder.parameters.map (·.name)).Nodup := by decide
  exact ⟨made, distinct, transmits_of_toService made distinct⟩

end ClientGen.TypeScript
