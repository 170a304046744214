import ClientGen.Proofs.Failure
import ClientGen.Proofs.Route.Placeholders
import ClientGen.Proofs.Text.Cutting
import ClientGen.Service.Mapping

/-!
# What becomes of a method

A method whose answer redirects becomes nothing. Any other method becomes a service exactly when
it meets the conditions below, which speak of its documentation, its attributes, its route and its
parameters apart from the way it is mapped. When a condition fails, the error is that of the first
one, and it names the method.
-/

namespace ClientGen

/-- The method that an error is about, if it is about one. -/
def GenerationError.method? : GenerationError → Option String
  | missingDocumentation method | missingVerb method => some method
  | ambiguousVerb method _ | ambiguousBody method _ | malformedRoute _ _ method => some method
  | unresolvableBase _ _ | missingClass _ | notWritten _ _ _ => none

/-! ### The conditions -/

namespace Attribute

/-- The attribute is the one of a verb, with or without the word `Attribute` in its name. -/
def Gives (a : Attribute) (verb : HttpVerb) : Prop :=
  a.shortName = verb.attributeName ∨ a.shortName = verb.attributeName ++ "Attribute"

/-- The attribute is the one of some verb. -/
def IsVerb (a : Attribute) : Prop :=
  ∃ verb, a.Gives verb

/-- The name of no verb attribute ends with the word `Attribute` itself. -/
theorem dropEnd?_attributeName (verb : HttpVerb) :
    Text.dropEnd? "Attribute" verb.attributeName = none := by
  cases verb <;> decide

/-- A name belongs to the attribute of a verb exactly when it is that attribute's name. -/
theorem ofAttributeName?_eq_some_iff {name : String} {verb : HttpVerb} :
    HttpVerb.ofAttributeName? name = some verb ↔ name = verb.attributeName := by
  constructor
  · intro h
    change HttpVerb.all.find? (fun v => v.attributeName == name) = some verb at h
    have hname := List.find?_some h
    exact (eq_of_beq hname).symm
  · rintro rfl
    cases verb <;> decide

/-- The verb that is read from an attribute is the one the attribute gives. -/
theorem verb?_eq_some_iff {a : Attribute} {verb : HttpVerb} : a.verb? = some verb ↔ a.Gives verb := by
  cases hend : Text.dropEnd? "Attribute" a.shortName with
  | none =>
    have hlong : a.shortName ≠ verb.attributeName ++ "Attribute" := by
      intro h
      rw [Text.dropEnd?_eq_some_iff.mpr h] at hend
      nomatch hend
    rw [verb?, hend, Option.getD_none, ofAttributeName?_eq_some_iff, Gives, or_iff_left hlong]
  | some base =>
    have hname := Text.dropEnd?_eq_some_iff.mp hend
    have hshort : a.shortName ≠ verb.attributeName := by
      intro h
      rw [h, dropEnd?_attributeName] at hend
      nomatch hend
    rw [verb?, hend, Option.getD_some, ofAttributeName?_eq_some_iff, Gives, or_iff_right hshort,
      hname, ← String.toList_inj, ← String.toList_inj, String.toList_append, String.toList_append,
      List.append_left_inj]

/-- An attribute is a verb attribute exactly when a verb is read from it. -/
theorem isSome_verb?_iff {a : Attribute} : a.verb?.isSome = true ↔ a.IsVerb := by
  rw [Option.isSome_iff_exists]
  exact exists_congr fun verb => verb?_eq_some_iff

instance : DecidablePred IsVerb :=
  fun _ => decidable_of_iff _ isSome_verb?_iff

end Attribute

namespace Method

/-- The name of the unwrapped answer has the word of a redirect in it. -/
def Redirects (solution : Solution) (method : Method) : Prop :=
  "Redirect".toList <:+: (unwrapAsync (solution.resolve method.returnType)).name.toList

/-- It is decidable whether a method redirects. -/
instance (solution : Solution) (method : Method) : Decidable (method.Redirects solution) :=
  inferInstanceAs (Decidable (_ <:+: _))

/-- Some element of the method's documentation is a summary. -/
def Documented (method : Method) : Prop :=
  ∃ elements, method.documentation = some elements ∧ ∃ e ∈ elements, e.tag = "summary"

/-- The verb attributes of the method, in order. -/
def verbSources (method : Method) : List Attribute :=
  method.attributes.filter fun a => decide a.IsVerb

/-- The parameters of the method that are marked for the body, in order. -/
def bodyParameters (method : Method) : List MethodParameter :=
  method.parameters.filter fun p => decide (∃ a ∈ p.attributes, a ∈ fromBodyAttributes)

/-- The method has one verb attribute, and its first argument is this text. -/
def Routed (method : Method) (route : String) : Prop :=
  ∃ source, method.verbSources = [source] ∧ source.arguments.head? = some (some route)

/-- The method meets every condition of a service. -/
structure Callable (method : Method) : Prop where
  /-- There is a summary. -/
  documented : method.Documented
  /-- There is one verb attribute, and it begins with a well-formed route. -/
  routed : ∃ route, method.Routed route ∧ Route.WellFormed route.toList
  /-- At most one parameter travels in the body. -/
  oneBody : method.bodyParameters.length ≤ 1

/-- The first condition of a service that the method fails, as an error. -/
inductive Refusal (method : Method) : GenerationError → Prop
  /-- There is no summary. -/
  | undocumented (bare : ¬ method.Documented) :
    Refusal method (.missingDocumentation method.name)
  /-- There is no verb attribute. -/
  | noVerb (documented : method.Documented) (absent : method.verbSources = []) :
    Refusal method (.missingVerb method.name)
  /-- There are several verb attributes. -/
  | severalVerbs (documented : method.Documented) (several : 1 < method.verbSources.length) :
    Refusal method (.ambiguousVerb method.name (method.verbSources.map (·.name)))
  /-- The verb attribute has no arguments. -/
  | noTemplate {source : Attribute} (documented : method.Documented)
    (verb : method.verbSources = [source]) (bare : source.arguments = []) :
    Refusal method (.malformedRoute none (.noTemplate source.name) method.name)
  /-- The first argument of the verb attribute is no text. -/
  | notLiteral {source : Attribute} (documented : method.Documented)
    (verb : method.verbSources = [source]) (other : source.arguments.head? = some none) :
    Refusal method (.malformedRoute none (.notLiteral source.name) method.name)
  /-- The braces of the route are not balanced. -/
  | unbalanced {route : String} (documented : method.Documented) (routed : method.Routed route)
    (unbalanced : ¬ Route.Balanced route.toList) :
    Refusal method (.malformedRoute (some route) .unbalancedBraces method.name)
  /-- The braces are balanced, and a placeholder of the route binds no name. -/
  | nameless {route : String} {position : Nat} (documented : method.Documented)
    (routed : method.Routed route) (balanced : Route.Balanced route.toList)
    (nameless : Route.FirstNameless route.toList position) :
    Refusal method (.malformedRoute (some route) (.emptyPlaceholder position) method.name)
  /-- Several parameters are marked for the body. -/
  | severalBodies {route : String} (documented : method.Documented) (routed : method.Routed route)
    (formed : Route.WellFormed route.toList) (several : 1 < method.bodyParameters.length) :
    Refusal method (.ambiguousBody method.name (method.bodyParameters.map (·.name)))

end Method

/-! ### The stages of the mapping -/

namespace Method

/-- There is a summary exactly when documentation is found. -/
theorem documentationOf_eq_ok_iff {method : Method} :
    (∃ documentation, documentationOf method.documentation method.name = .ok documentation) ↔
      method.Documented := by
  have hfind : (∃ documentation, Documentation.ofElements? (method.documentation.getD []) =
      some documentation) ↔ method.Documented := by
    rw [← Option.isSome_iff_exists, Documentation.ofElements?, Option.isSome_map, List.find?_isSome,
      Documented]
    cases method.documentation <;> simp
  rw [← hfind, documentationOf]
  cases Documentation.ofElements? (method.documentation.getD []) <;> simp

/-- Without a summary the error is that of missing documentation. -/
theorem documentationOf_eq_error_iff {method : Method} {e : GenerationError} :
    documentationOf method.documentation method.name = .error e ↔
      ¬ method.Documented ∧ e = .missingDocumentation method.name := by
  rw [← documentationOf_eq_ok_iff, documentationOf]
  cases Documentation.ofElements? (method.documentation.getD []) <;> simp [@eq_comm _ e]

/-- The attributes that give the method its verbs are its verb attributes. -/
theorem map_verbAttributes (method : Method) :
    method.verbAttributes.map (·.2) = method.verbSources := by
  rw [verbAttributes, verbSources]
  induction method.attributes with
  | nil => rfl
  | cons a rest ih =>
    cases hverb : a.verb? with
    | none =>
      have hnot : ¬ a.IsVerb := by simp [← Attribute.isSome_verb?_iff, hverb]
      simpa [hverb, hnot] using ih
    | some verb =>
      have his : a.IsVerb := by simp [← Attribute.isSome_verb?_iff, hverb]
      simpa [hverb, his] using ih

/-- The method gets its verb from an attribute exactly when that is its only verb attribute. -/
theorem verb_eq_ok_iff {method : Method} {source : Attribute} :
    (∃ verb, method.verb = .ok (verb, source)) ↔ method.verbSources = [source] := by
  rw [← map_verbAttributes, verb]
  rcases method.verbAttributes with _ | ⟨⟨verb, a⟩, _ | ⟨second, rest⟩⟩ <;> simp

/-- No verb attribute and several of them are the two errors of the search for a verb. -/
theorem verb_eq_error_iff {method : Method} {e : GenerationError} :
    method.verb = .error e ↔
      (method.verbSources = [] ∧ e = .missingVerb method.name) ∨
        (1 < method.verbSources.length ∧
          e = .ambiguousVerb method.name (method.verbSources.map (·.name))) := by
  rw [← map_verbAttributes, verb]
  rcases method.verbAttributes with _ | ⟨⟨verb, a⟩, _ | ⟨second, rest⟩⟩ <;> 
    simp [@eq_comm _ e, Function.comp_def]

end Method

/-- The template of an attribute is its first argument. -/
theorem Attribute.route_eq_ok_iff {a : Attribute} {method route : String} :
    a.route method = .ok route ↔ a.arguments.head? = some (some route) := by
  rw [Attribute.route]
  rcases a.arguments with _ | ⟨_ | template, rest⟩ <;> simp

/-- No argument, and a first argument that is no text, are the two errors of the template. -/
theorem Attribute.route_eq_error_iff {a : Attribute} {method : String} {e : GenerationError} :
    a.route method = .error e ↔
      (a.arguments = [] ∧ e = .malformedRoute none (.noTemplate a.name) method) ∨
        (a.arguments.head? = some none ∧ e = .malformedRoute none (.notLiteral a.name) method) := by
  rw [Attribute.route]
  rcases a.arguments with _ | ⟨_ | template, rest⟩ <;> simp [@eq_comm _ e]

namespace Method

/-- The placeholders of a route are those that the route itself lists. -/
theorem placeholders_eq_ok_iff {route method : String} {names : List String} :
    placeholders route method = .ok names ↔ Route.placeholders route = .ok names := by
  rw [placeholders]
  cases Route.placeholders route <;> simp

/-- A fault of the route is an error that names the method. -/
theorem placeholders_eq_error_iff {route method : String} {e : GenerationError} :
    placeholders route method = .error e ↔
      ∃ fault, Route.placeholders route = .error fault ∧
        e = .malformedRoute (some route) fault method := by
  rw [placeholders]
  cases Route.placeholders route <;> simp [@eq_comm _ e]

/-- The parameters marked for the body stay so, with their names, as parameters of a service. -/
theorem filter_isFromBody (solution : Solution) (method : Method) :
    (method.parameters.map (·.toService solution)).filter (·.isFromBody) =
      method.bodyParameters.map (·.toService solution) := by
  rw [bodyParameters, List.filter_map]
  congr 1
  apply List.filter_congr
  intro p _
  simp [MethodParameter.toService, List.any_eq]

/-- The parameters are divided exactly when at most one of them is marked for the body. The others
travel in the path when a placeholder has their name, and in the query when none has. -/
theorem bind_eq_ok_iff {parameters : List ServiceParameter} {names : List String} {method : String}
    {bindings : Bindings} :
    bind parameters names method = .ok bindings ↔
      (parameters.filter (·.isFromBody)).length ≤ 1 ∧ bindings = {
        uri := parameters.filter fun p => !p.isFromBody && names.contains p.name
        query := parameters.filter fun p => !p.isFromBody && !names.contains p.name
        body := (parameters.filter (·.isFromBody)).head? } := by
  rw [bind, Bindings.classify]
  rcases h : parameters.filter (·.isFromBody) with _ | ⟨first, _ | ⟨second, rest⟩⟩ <;>
    simp [h, @eq_comm _ bindings]

/-- Several parameters marked for the body are the only error of the division. -/
theorem bind_eq_error_iff {parameters : List ServiceParameter} {names : List String}
    {method : String} {e : GenerationError} :
    bind parameters names method = .error e ↔
      1 < (parameters.filter (·.isFromBody)).length ∧
        e = .ambiguousBody method ((parameters.filter (·.isFromBody)).map (·.name)) := by
  rw [bind, Bindings.classify]
  rcases h : parameters.filter (·.isFromBody) with _ | ⟨first, _ | ⟨second, rest⟩⟩ <;>
    simp [h, @eq_comm _ e]

/-! ### The mapping as a whole -/

/-- A service is put together from what the stages give. -/
theorem toEndpoint_eq_ok_iff {solution : Solution} {method : Method} {service : Service} :
    method.toEndpoint solution = .ok service ↔
      ∃ documentation verb source route names bindings,
        documentationOf method.documentation method.name = .ok documentation ∧
        method.verb = .ok (verb, source) ∧ source.route method.name = .ok route ∧
        placeholders route method.name = .ok names ∧
        bind (method.parameters.map (·.toService solution)) names method.name = .ok bindings ∧
        service = {
          verb, route, documentation
          parameters := method.parameters.map (·.toService solution)
          name := method.name
          returnType := method.answerType solution
          uriParameters := bindings.uri
          queryParameters := bindings.query
          bodyParameter := bindings.body } := by
  constructor
  · intro h
    obtain ⟨documentation, hdoc, h⟩ := ClientGen.bind_eq_ok_iff.mp h
    obtain ⟨⟨verb, source⟩, hverb, h⟩ := ClientGen.bind_eq_ok_iff.mp h
    obtain ⟨route, hroute, h⟩ := ClientGen.bind_eq_ok_iff.mp h
    obtain ⟨names, hnames, h⟩ := ClientGen.bind_eq_ok_iff.mp h
    obtain ⟨bindings, hbind, h⟩ := ClientGen.bind_eq_ok_iff.mp h
    exact ⟨documentation, verb, source, route, names, bindings, hdoc, hverb, hroute, hnames, hbind,
      (Except.ok.inj h).symm⟩
  · rintro ⟨documentation, verb, source, route, names, bindings, hdoc, hverb, hroute, hnames, hbind, rfl⟩
    refine ClientGen.bind_eq_ok_iff.mpr ⟨documentation, hdoc, ?_⟩
    refine ClientGen.bind_eq_ok_iff.mpr ⟨(verb, source), hverb, ?_⟩
    refine ClientGen.bind_eq_ok_iff.mpr ⟨route, hroute, ?_⟩
    refine ClientGen.bind_eq_ok_iff.mpr ⟨names, hnames, ?_⟩
    exact ClientGen.bind_eq_ok_iff.mpr ⟨bindings, hbind, rfl⟩

/-- A method is mapped exactly when it meets every condition. -/
theorem exists_toEndpoint_iff {solution : Solution} {method : Method} :
    (∃ service, method.toEndpoint solution = .ok service) ↔ method.Callable := by
  constructor
  · rintro ⟨service, h⟩
    obtain ⟨documentation, verb, source, route, names, bindings, hdoc, hverb, hroute, hnames, hbind, _⟩ :=
      toEndpoint_eq_ok_iff.mp h
    have hsource := verb_eq_ok_iff.mp ⟨verb, hverb⟩
    have hbodies := (bind_eq_ok_iff.mp hbind).1
    rw [filter_isFromBody, List.length_map] at hbodies
    exact {
      documented := documentationOf_eq_ok_iff.mp ⟨documentation, hdoc⟩
      routed := ⟨route, ⟨source, hsource, Attribute.route_eq_ok_iff.mp hroute⟩,
        (Route.placeholders_eq_ok_iff.mp (placeholders_eq_ok_iff.mp hnames)).1⟩
      oneBody := hbodies }
  · rintro ⟨hdoc, ⟨route, ⟨source, hsource, hroute⟩, hformed⟩, hbodies⟩
    obtain ⟨documentation, hdoc⟩ := documentationOf_eq_ok_iff.mpr hdoc
    obtain ⟨verb, hverb⟩ := verb_eq_ok_iff.mpr hsource
    have hnames := Route.placeholders_eq_ok_iff.mpr ⟨hformed, rfl⟩
    rw [← List.length_map (f := (·.toService solution)), ← filter_isFromBody] at hbodies
    exact ⟨_, toEndpoint_eq_ok_iff.mpr ⟨documentation, verb, source, route, _, _, hdoc, hverb,
      Attribute.route_eq_ok_iff.mpr hroute, placeholders_eq_ok_iff.mpr hnames,
      bind_eq_ok_iff.mpr ⟨hbodies, rfl⟩, rfl⟩⟩

/-- A method that is not mapped fails the condition that its error reports. -/
theorem refusal_of_toEndpoint {solution : Solution} {method : Method} {e : GenerationError}
    (h : method.toEndpoint solution = .error e) : method.Refusal e := by
  rcases ClientGen.bind_eq_error_iff.mp h with h | ⟨documentation, hdoc, h⟩
  · obtain ⟨hbare, rfl⟩ := documentationOf_eq_error_iff.mp h
    exact .undocumented hbare
  have hdoc := documentationOf_eq_ok_iff.mp ⟨documentation, hdoc⟩
  rcases ClientGen.bind_eq_error_iff.mp h with h | ⟨⟨verb, source⟩, hverb, h⟩
  · rcases verb_eq_error_iff.mp h with ⟨habsent, rfl⟩ | ⟨hseveral, rfl⟩
    · exact .noVerb hdoc habsent
    · exact .severalVerbs hdoc hseveral
  have hsource := verb_eq_ok_iff.mp ⟨verb, hverb⟩
  rcases ClientGen.bind_eq_error_iff.mp h with h | ⟨route, hroute, h⟩
  · rcases Attribute.route_eq_error_iff.mp h with ⟨hbare, rfl⟩ | ⟨hother, rfl⟩
    · exact .noTemplate hdoc hsource hbare
    · exact .notLiteral hdoc hsource hother
  have hrouted : method.Routed route := ⟨source, hsource, Attribute.route_eq_ok_iff.mp hroute⟩
  rcases ClientGen.bind_eq_error_iff.mp h with h | ⟨names, hnames, h⟩
  · obtain ⟨fault, hfault, rfl⟩ := placeholders_eq_error_iff.mp h
    rcases Route.placeholders_eq_error_iff.mp hfault with ⟨hnot, rfl⟩ | ⟨hbalanced, position, hfirst, rfl⟩
    · exact .unbalanced hdoc hrouted hnot
    · exact .nameless hdoc hrouted hbalanced hfirst
  have hformed := (Route.placeholders_eq_ok_iff.mp (placeholders_eq_ok_iff.mp hnames)).1
  rcases ClientGen.bind_eq_error_iff.mp h with h | ⟨bindings, _, h⟩
  · obtain ⟨hseveral, rfl⟩ := bind_eq_error_iff.mp h
    rw [filter_isFromBody, List.length_map] at hseveral
    rw [filter_isFromBody, List.map_map]
    exact .severalBodies hdoc hrouted hformed hseveral
  · nomatch h

/-- What goes wrong behind the route of a method is what goes wrong with the method. -/
theorem toEndpoint_error_of_route {solution : Solution} {method : Method} {route : String}
    {e : GenerationError} (documented : method.Documented) (routed : method.Routed route)
    (h : (placeholders route method.name >>= fun names =>
      bind (method.parameters.map (·.toService solution)) names method.name) = .error e) :
    method.toEndpoint solution = .error e := by
  obtain ⟨source, hsource, hroute⟩ := routed
  obtain ⟨_, hdoc⟩ := documentationOf_eq_ok_iff.mpr documented
  obtain ⟨_, hverb⟩ := verb_eq_ok_iff.mpr hsource
  refine bind_error_of_second hdoc (bind_error_of_second hverb
    (bind_error_of_second (Attribute.route_eq_ok_iff.mpr hroute) ?_))
  rcases ClientGen.bind_eq_error_iff.mp h with hnames | ⟨names, hnames, hbind⟩
  · exact bind_error_of_first hnames
  · exact bind_error_of_second hnames (bind_error_of_first hbind)

/-- The first condition that a method fails is its error. -/
theorem Refusal.toEndpoint_eq {solution : Solution} {method : Method} {e : GenerationError}
    (h : method.Refusal e) : method.toEndpoint solution = .error e := by
  have hdocumented (hdoc : method.Documented) := documentationOf_eq_ok_iff.mpr hdoc
  cases h with
  | undocumented bare =>
    exact bind_error_of_first (documentationOf_eq_error_iff.mpr ⟨bare, rfl⟩)
  | noVerb documented absent =>
    obtain ⟨_, hdoc⟩ := hdocumented documented
    have hverb := verb_eq_error_iff.mpr (.inl ⟨absent, rfl⟩)
    exact bind_error_of_second hdoc (bind_error_of_first hverb)
  | severalVerbs documented several =>
    obtain ⟨_, hdoc⟩ := hdocumented documented
    have hverb := verb_eq_error_iff.mpr (.inr ⟨several, rfl⟩)
    exact bind_error_of_second hdoc (bind_error_of_first hverb)
  | noTemplate documented verb bare =>
    obtain ⟨_, hdoc⟩ := hdocumented documented
    obtain ⟨_, hverb⟩ := verb_eq_ok_iff.mpr verb
    exact bind_error_of_second hdoc (bind_error_of_second hverb
      (bind_error_of_first (Attribute.route_eq_error_iff.mpr (.inl ⟨bare, rfl⟩))))
  | notLiteral documented verb other =>
    obtain ⟨_, hdoc⟩ := hdocumented documented
    obtain ⟨_, hverb⟩ := verb_eq_ok_iff.mpr verb
    exact bind_error_of_second hdoc (bind_error_of_second hverb
      (bind_error_of_first (Attribute.route_eq_error_iff.mpr (.inr ⟨other, rfl⟩))))
  | unbalanced documented routed unbalanced =>
    have hfault := Route.placeholders_eq_error_iff.mpr (.inl ⟨unbalanced, rfl⟩)
    exact toEndpoint_error_of_route documented routed
      (bind_error_of_first (placeholders_eq_error_iff.mpr ⟨_, hfault, rfl⟩))
  | nameless documented routed balanced nameless =>
    have hfault := Route.placeholders_eq_error_iff.mpr (.inr ⟨balanced, _, nameless, rfl⟩)
    exact toEndpoint_error_of_route documented routed
      (bind_error_of_first (placeholders_eq_error_iff.mpr ⟨_, hfault, rfl⟩))
  | severalBodies documented routed formed several =>
    have hnames := Route.placeholders_eq_ok_iff.mpr ⟨formed, rfl⟩
    refine toEndpoint_error_of_route documented routed
      (bind_error_of_second (placeholders_eq_ok_iff.mpr hnames) (bind_eq_error_iff.mpr ⟨?_, ?_⟩))
    · rwa [filter_isFromBody, List.length_map]
    · rw [filter_isFromBody, List.map_map]
      rfl

/-- A method becomes a service when it is no redirect and becomes an endpoint. -/
theorem toService_eq_some_iff {solution : Solution} {method : Method} {service : Service} :
    method.toService solution = .ok (some service) ↔
      method.isRedirect solution = false ∧ method.toEndpoint solution = .ok service := by
  rw [toService]
  cases method.isRedirect solution with
  | true => simp
  | false => simp [map_eq_ok_iff]

/-- A service has the parameters of its method, divided by the placeholders of its own route. -/
theorem parameters_of_toService {solution : Solution} {method : Method} {service : Service}
    (h : method.toService solution = .ok (some service)) :
    service.parameters = method.parameters.map (·.toService solution) ∧
      (service.parameters.filter (·.isFromBody)).length ≤ 1 ∧
      ∃ names, Route.placeholders service.route = .ok names ∧
        service.uriParameters =
          service.parameters.filter (fun p => !p.isFromBody && names.contains p.name) ∧
        service.queryParameters =
          service.parameters.filter (fun p => !p.isFromBody && !names.contains p.name) ∧
        service.bodyParameter = (service.parameters.filter (·.isFromBody)).head? := by
  obtain ⟨-, hmade⟩ := toService_eq_some_iff.mp h
  obtain ⟨_, _, _, _, names, bindings, _, _, _, hnames, hbind, rfl⟩ := toEndpoint_eq_ok_iff.mp hmade
  obtain ⟨hbodies, rfl⟩ := bind_eq_ok_iff.mp hbind
  exact ⟨rfl, hbodies, names, placeholders_eq_ok_iff.mp hnames, rfl, rfl, rfl⟩

/-- A service comes from a method without a redirect, and has its name, its resolved answer and what
its comment says. -/
theorem description_of_toService {solution : Solution} {method : Method} {service : Service}
    (h : method.toService solution = .ok (some service)) :
    method.isRedirect solution = false ∧ service.name = method.name ∧
      service.returnType = method.answerType solution ∧
      documentationOf method.documentation method.name = .ok service.documentation := by
  obtain ⟨hredirect, hmade⟩ := toService_eq_some_iff.mp h
  obtain ⟨_, _, _, _, _, _, hdoc, _, _, _, _, rfl⟩ := toEndpoint_eq_ok_iff.mp hmade
  exact ⟨hredirect, rfl, rfl, hdoc⟩

/-- A service says what the comment on its method says: the first summary on one line, and the
descriptions of the `param` elements. -/
theorem documentation_of_toService {solution : Solution} {method : Method} {service : Service}
    (h : method.toService solution = .ok (some service)) :
    ∃ summary, (method.documentation.getD []).find? (·.tag == "summary") = some summary ∧
      service.documentation = ⟨Text.collapse summary.text,
        Documentation.descriptions (method.documentation.getD [])⟩ := by
  obtain ⟨-, -, -, hdoc⟩ := description_of_toService h
  rw [documentationOf, Documentation.ofElements?] at hdoc
  cases hfind : (method.documentation.getD []).find? (·.tag == "summary") with
  | none => simp [hfind] at hdoc
  | some summary =>
    rw [hfind, Option.map_some] at hdoc
    exact ⟨summary, rfl, (Except.ok.inj hdoc).symm⟩

/-- A refusal names the method it refuses. -/
theorem Refusal.method?_eq {method : Method} {e : GenerationError} (h : method.Refusal e) :
    e.method? = some method.name := by
  cases h <;> rfl

/-- What becomes of a method, in every case. It becomes nothing exactly when the name of its
unwrapped answer has the word of a redirect in it. Otherwise it becomes a service exactly when it
meets every condition, and fails with the first condition it does not meet, under its own name. -/
theorem toService_outcome (solution : Solution) (method : Method) :
    (method.toService solution = .ok none ↔ method.Redirects solution) ∧
      ((∃ service, method.toService solution = .ok (some service)) ↔
        ¬ method.Redirects solution ∧ method.Callable) ∧
      ((∃ e, method.toService solution = .error e) ↔
        ¬ method.Redirects solution ∧ ¬ method.Callable) ∧
      ∀ e, method.toService solution = .error e ↔
        ¬ method.Redirects solution ∧ method.Refusal e ∧ e.method? = some method.name := by
  have hredirect : method.isRedirect solution = true ↔ method.Redirects solution :=
    Text.contains_iff
  by_cases h : method.isRedirect solution = true
  · have hnone : method.toService solution = .ok none := by rw [toService, if_pos h]
    have hyes := hredirect.mp h
    simp [hnone, hyes]
  · have hmap : method.toService solution = (method.toEndpoint solution).map some := by
      rw [toService, if_neg h]
    have hno : ¬ method.Redirects solution := fun hyes => h (hredirect.mpr hyes)
    have herror (e : GenerationError) : method.toEndpoint solution = .error e ↔
        method.Refusal e ∧ e.method? = some method.name :=
      ⟨fun he => ⟨refusal_of_toEndpoint he, (refusal_of_toEndpoint he).method?_eq⟩,
        fun he => he.1.toEndpoint_eq⟩
    have hfails : (∃ e, method.toEndpoint solution = .error e) ↔ ¬ method.Callable := by
      rw [← @exists_toEndpoint_iff solution method]
      cases method.toEndpoint solution <;> simp
    refine ⟨?_, ?_, ?_, ?_⟩
    · rw [hmap, map_eq_ok_iff]
      exact iff_of_false (fun ⟨_, _, hsome⟩ => nomatch hsome) hno
    · rw [← @exists_toEndpoint_iff solution method, hmap, and_iff_right hno]
      exact exists_congr fun service => map_eq_ok_iff.trans (by simp)
    · rw [hmap, and_iff_right hno, ← hfails]
      exact exists_congr fun e => map_eq_error_iff
    · intro e
      rw [hmap, map_eq_error_iff, herror, and_iff_right hno]

end Method

end ClientGen
