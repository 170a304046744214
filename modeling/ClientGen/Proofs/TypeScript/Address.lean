import ClientGen.Proofs.TypeScript.Call
import ClientGen.Proofs.TypeScript.Template

/-!
# Addresses as template literals

The address of a service is meant to say its route, relative to the application, with the value of a
variable in the place of every placeholder that is bound to a path parameter. It is written between
backticks with nothing escaped, so it is read as it is meant exactly when what is left of the route
as text has no character with a meaning of its own there.
-/

namespace ClientGen.TypeScript

open Route (isBrace placeholderName)

/-- What the text of a route is meant to say in an address: a placeholder that binds one of the given
names stands for the value of that variable, and every other character for itself. -/
inductive Means (bound : List String) : List Char → List TemplatePart → Prop
  /-- Nothing is left to say. -/
  | done : Means bound [] []
  /-- A character around the placeholders stands for itself. -/
  | plain {c : Char} {route : List Char} {parts : List TemplatePart} (text : isBrace c = false)
    (rest : Means bound route parts) : Means bound (c :: route) (.text c :: parts)
  /-- A placeholder of a bound name stands for the value of that name. -/
  | inserted {body route : List Char} {parts : List TemplatePart}
    (closed : ∀ c ∈ body, isBrace c = false) (known : placeholderName (String.ofList body) ∈ bound)
    (rest : Means bound route parts) :
    Means bound ('\x7b' :: (body ++ '\x7d' :: route))
      (.substitution (placeholderName (String.ofList body)) :: parts)
  /-- Any other placeholder stands for itself. -/
  | kept {body route : List Char} {parts : List TemplatePart}
    (closed : ∀ c ∈ body, isBrace c = false) (unknown : placeholderName (String.ofList body) ∉ bound)
    (rest : Means bound route parts) :
    Means bound ('\x7b' :: (body ++ '\x7d' :: route))
      (.text '\x7b' :: (body.map .text ++ .text '\x7d' :: parts))

/-- What the address of a service is meant to say: the directory of the application, and then the
route without its leading tilde and slashes. -/
def AddressMeans (service : Service) (parts : List TemplatePart) : Prop :=
  ∃ lead route said, service.route.toList = lead ++ route ∧ (∀ c ∈ lead, c = '~' ∨ c = '/') ∧
    (∀ c ∈ route.head?, c ≠ '~' ∧ c ≠ '/') ∧
    Means (service.uriParameters.map (·.name)) route said ∧ parts = .text '.' :: .text '/' :: said

/-! ### What the pieces of a route say -/

/-- What a piece of a route is meant to say. -/
def meantParts (bound : List String) : Route.Piece → List TemplatePart
  | .plain c => [.text c]
  | .placeholder body =>
    let name := String.ofList (Route.placeholderChars body)
    if bound.contains name then [.substitution name]
    else (Route.Piece.placeholder body).chars.map .text

/-- A piece is written in an address as what it is meant to say, with nothing escaped. -/
theorem pieceText_eq (bound : List String) (piece : Route.Piece) :
    pieceText bound piece = (meantParts bound piece).flatMap TemplatePart.chars := by
  cases piece with
  | plain c => rfl
  | placeholder body =>
    rw [pieceText, meantParts]
    split
    · simp [TemplatePart.chars]
    · simp [List.flatMap_map, TemplatePart.chars]

/-- Proper pieces say what they are meant to say. -/
theorem means_flatMap (bound : List String) {pieces : List Route.Piece}
    (hproper : ∀ piece ∈ pieces, piece.Proper) :
    Means bound (pieces.flatMap Route.Piece.chars) (pieces.flatMap (meantParts bound)) := by
  induction pieces with
  | nil => exact .done
  | cons piece pieces ih =>
    have hrest := ih fun p hp => hproper p (List.mem_cons_of_mem _ hp)
    have hpiece := hproper piece List.mem_cons_self
    cases piece with
    | plain c => exact .plain hpiece hrest
    | placeholder body =>
      have hname : String.ofList (Route.placeholderChars body) =
          placeholderName (String.ofList body) := by
        rw [placeholderName, String.toList_ofList]
      by_cases hbound : placeholderName (String.ofList body) ∈ bound
      · have h := Means.inserted hpiece hbound hrest
        simpa [Route.Piece.chars, meantParts, hname, hbound] using h
      · have h := Means.kept hpiece hbound hrest
        simpa [Route.Piece.chars, meantParts, hname, hbound] using h

/-- What a route is meant to say is what its pieces are meant to say. -/
theorem Means.eq {bound : List String} {route : List Char} {parts : List TemplatePart}
    (h : Means bound route parts) : parts = (Route.pieces route).flatMap (meantParts bound) := by
  have hname (body : List Char) : String.ofList (Route.placeholderChars body) =
      placeholderName (String.ofList body) := by
    rw [placeholderName, String.toList_ofList]
  induction h with
  | done => rfl
  | plain hc _ ih =>
    rw [Route.pieces_cons_plain hc, List.flatMap_cons, ← ih]
    rfl
  | @inserted body route parts hbody hbound _ ih =>
    have hpieces := Route.pieces_append_placeholder [] body route hbody
    rw [List.nil_append] at hpieces
    rw [hpieces, ih]
    simp [Route.pieces, Route.piecesAfter, Route.leftOver, meantParts, hname, hbound]
  | @kept body route parts hbody hbound _ ih =>
    have hpieces := Route.pieces_append_placeholder [] body route hbody
    rw [List.nil_append] at hpieces
    rw [hpieces, ih]
    simp [Route.pieces, Route.piecesAfter, Route.leftOver, meantParts, hname, hbound,
      Route.Piece.chars]

/-- What an address is meant to say is determined by the pieces of the relative route. -/
theorem AddressMeans.eq {service : Service} {parts : List TemplatePart}
    (h : AddressMeans service parts) :
    parts = .text '.' :: .text '/' :: (Route.pieces (relativeRoute service.route)).flatMap
      (meantParts (service.uriParameters.map (·.name))) := by
  obtain ⟨lead, route, said, hroute, hlead, hhead, hsaid, rfl⟩ := h
  have hrelative : relativeRoute service.route = route := by
    rw [relativeRoute, hroute, List.dropWhile_append_of_pos fun c hc => by simpa using hlead c hc]
    cases route with
    | nil => rfl
    | cons c rest => exact List.dropWhile_cons_of_neg (by simpa using hhead c rfl)
  rw [hrelative, ← hsaid.eq]

/-! ### The names that are substituted -/

/-- The name that a placeholder binds is made of characters of its body. -/
theorem mem_of_mem_placeholderChars {c : Char} {body : List Char}
    (h : c ∈ Route.placeholderChars body) : c ∈ body := by
  have htrailing (drop : Char → Bool) (cs : List Char) :
      (Text.dropTrailing drop cs).Sublist cs := by
    have hreversed := (List.dropWhile_sublist drop (l := cs.reverse)).reverse
    rwa [List.reverse_reverse] at hreversed
  have hname : (Route.placeholderChars body).Sublist body :=
    ((htrailing _ _).trans (List.dropWhile_sublist _)).trans
      ((htrailing _ _).trans ((List.takeWhile_sublist _).trans (List.dropWhile_sublist _)))
  exact hname.subset h

/-- A name that proper pieces substitute has no closing brace. -/
theorem not_mem_of_substitution {bound : List String} {pieces : List Route.Piece} {name : String}
    (hproper : ∀ piece ∈ pieces, piece.Proper)
    (h : .substitution name ∈ pieces.flatMap (meantParts bound)) : '\x7d' ∉ name.toList := by
  obtain ⟨piece, hpiece, h⟩ := List.mem_flatMap.mp h
  cases piece with
  | plain c => simp [meantParts] at h
  | placeholder body =>
    rw [meantParts] at h
    split at h
    · obtain rfl := TemplatePart.substitution.inj (List.mem_singleton.mp h)
      rw [String.toList_ofList]
      intro hbrace
      have hclosed := hproper _ hpiece _ (mem_of_mem_placeholderChars hbrace)
      cases hclosed
    · simp at h

/-- The names that pieces substitute are those of their placeholders that are bound, in order. -/
theorem filterMap_name?_meantParts (bound : List String) (pieces : List Route.Piece) :
    (pieces.flatMap (meantParts bound)).filterMap (·.name?) = insertedNames bound pieces := by
  induction pieces with
  | nil => rfl
  | cons piece pieces ih =>
    rw [List.flatMap_cons, List.filterMap_append, ih, insertedNames, insertedNames]
    cases piece with
    | plain c => rfl
    | placeholder body =>
      by_cases hbound : String.ofList (Route.placeholderChars body) ∈ bound
      · simp [meantParts, Route.Piece.name?, TemplatePart.name?, hbound]
      · simp [meantParts, Route.Piece.name?, TemplatePart.name?, hbound, Route.Piece.chars,
          List.filterMap_map]

/-! ### How an address is read -/

/-- The address of every service is meant to say one thing, in which the placeholders that are path
parameters are substituted in order, and it is read as that exactly when the text in it has no
character with a meaning of its own in template literals. -/
theorem address_read_iff {solution : Solution} {method : Method} {service : Service}
    (made : method.toService solution = .ok (some service)) :
    ∃ parts names, AddressMeans service parts ∧ (∀ other, AddressMeans service other → other = parts) ∧
      Route.placeholders service.route = .ok names ∧
      parts.filterMap (·.name?) =
        names.filter (fun name => decide (name ∈ service.uriParameters.map (·.name))) ∧
      (readTemplate (url service).toList = some parts ↔ Unmarked parts) := by
  obtain ⟨_, _, names, hnames, _, _, _⟩ := Method.parameters_of_toService made
  obtain ⟨⟨hbalanced, _⟩, rfl⟩ := Route.placeholders_eq_ok_iff.mp hnames
  obtain ⟨lead, hlead, hmark, hpieces⟩ := exists_lead service.route
  let bound := service.uriParameters.map (·.name)
  let pieces := Route.pieces (relativeRoute service.route)
  have hproper (piece : Route.Piece) (h : piece ∈ pieces) : piece.Proper := by
    refine Route.proper_of_mem_pieces ((Route.any_isStrayBrace_pieces _).mpr hbalanced) ?_
    rw [hpieces]
    exact List.mem_append_right _ h
  have hmeans := means_flatMap bound hproper
  rw [Route.flatMap_chars_pieces] at hmeans
  refine ⟨.text '.' :: .text '/' :: pieces.flatMap (meantParts bound), _, ?_, fun _ h => h.eq, hnames,
    ?_, ?_⟩
  · exact ⟨lead, relativeRoute service.route, _, hlead, hmark, head?_relativeRoute _, hmeans, rfl⟩
  · -- The characters left out of the route name nothing.
    have hlost : (lead.map Route.Piece.plain).filterMap Route.Piece.name? = [] := by
      rw [List.filterMap_map]
      exact List.filterMap_eq_nil_iff.mpr fun _ _ => rfl
    rw [hpieces, List.filterMap_append, hlost, List.nil_append]
    exact filterMap_name?_meantParts bound pieces
  · have hurl : (url service).toList =
        (TemplatePart.text '.' :: .text '/' :: pieces.flatMap (meantParts bound)).flatMap
          TemplatePart.chars := by
      simp only [url, String.toList_ofList, List.flatMap_cons, List.flatMap_assoc, ← pieceText_eq]
      rfl
    rw [hurl]
    apply readTemplate_chars_iff
    intro name hname
    have hinner : .substitution name ∈ pieces.flatMap (meantParts bound) := by simpa using hname
    exact not_mem_of_substitution hproper hinner

/-- A method that fetches something by its number, with a given route. -/
def fetchById (route : String) : Method where
  name := "Fetch"
  returnType := { name := "string" }
  attributes := [⟨"HttpGet", [some route]⟩]
  parameters := [{ name := "id", type := { name := "int" } }]
  documentation := some [{ tag := "summary", text := "Fetches it." }]

/-- The service that the method becomes. -/
def fetchedById (route : String) : Service :=
  let id : ServiceParameter := { name := "id", type := { name := "int" } }
  { verb := .get
    route
    name := "Fetch"
    returnType := { name := "string" }
    parameters := [id]
    uriParameters := [id]
    queryParameters := []
    documentation := { summary := "Fetches it." } }

/-- A dollar sign before a substitution does no harm. -/
theorem address_read_price :
    (fetchById "~/prices/$\x7bid:int\x7d").toService (.ofProjects []) =
        .ok (some (fetchedById "~/prices/$\x7bid:int\x7d")) ∧
      url (fetchedById "~/prices/$\x7bid:int\x7d") = "./prices/$$\x7bid\x7d" ∧
      ∃ parts, AddressMeans (fetchedById "~/prices/$\x7bid:int\x7d") parts ∧ Unmarked parts ∧
        readTemplate (url (fetchedById "~/prices/$\x7bid:int\x7d")).toList = some parts := by
  have made : (fetchById "~/prices/$\x7bid:int\x7d").toService (.ofProjects []) =
      .ok (some (fetchedById "~/prices/$\x7bid:int\x7d")) := by decide
  obtain ⟨parts, _, hmeans, -, -, -, hread⟩ := address_read_iff made
  have hparts := hmeans.eq
  have hunmarked : readTemplate (url (fetchedById "~/prices/$\x7bid:int\x7d")).toList = some parts := by
    rw [hparts]
    decide
  exact ⟨made, by decide, parts, hmeans, hread.mp hunmarked, hunmarked⟩

/-- A backslash before a placeholder takes the substitution away: the address says the letters of the
name, and the path parameter is not transmitted. -/
theorem not_read_as_meant_file :
    (fetchById "files\\\x7bid\x7d").toService (.ofProjects []) =
        .ok (some (fetchedById "files\\\x7bid\x7d")) ∧
      url (fetchedById "files\\\x7bid\x7d") = "./files\\$\x7bid\x7d" ∧
      readTemplate (url (fetchedById "files\\\x7bid\x7d")).toList =
        some ("./files$\x7bid\x7d".toList.map .text) ∧
      ¬ ∃ parts, AddressMeans (fetchedById "files\\\x7bid\x7d") parts ∧
        readTemplate (url (fetchedById "files\\\x7bid\x7d")).toList = some parts := by
  refine ⟨by decide, by decide, by decide, ?_⟩
  rintro ⟨parts, hmeans, hread⟩
  rw [hmeans.eq] at hread
  revert hread
  decide

end ClientGen.TypeScript
