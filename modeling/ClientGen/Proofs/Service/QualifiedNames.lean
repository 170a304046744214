import ClientGen.Controller
import ClientGen.Proofs.Service.Outcome
import ClientGen.Proofs.Text.Cutting
import Mathlib.Data.List.Forall2

/-!
# Attributes under qualified names

The name of an attribute may stand with a namespace before it. The attributes of a method are looked up
without it, so whether the method is an action, and which verb and route it has, does not depend on any
namespace. The attributes of a parameter are compared as they stand: one that binds the parameter to the
body is not recognised in a namespace, and the parameter travels in the query or the path instead. So a
qualified method becomes the same service exactly when every parameter that is bound to the body keeps
an attribute for that without a namespace. A method that becomes a service never ceases to become one.
-/

namespace ClientGen

/-! ### Names with and without a namespace -/

/-- A name as it may be written: alone or in a namespace. -/
inductive Qualifies (name : String) : String → Prop
  /-- The name alone. -/
  | alone : Qualifies name name
  /-- The name in a namespace. -/
  | within (scope : String) : Qualifies name (scope ++ "." ++ name)

/-- An attribute and the same one under a name that may be qualified. -/
structure Attribute.QualifiesTo (a qualified : Attribute) : Prop where
  /-- The name may be qualified. -/
  name : Qualifies a.name qualified.name
  /-- The arguments are the same. -/
  arguments : qualified.arguments = a.arguments

/-- A parameter and the same one with attributes that may be qualified. -/
structure MethodParameter.QualifiesTo (p qualified : MethodParameter) : Prop where
  /-- The name is the same. -/
  name : qualified.name = p.name
  /-- The type is the same. -/
  type : qualified.type = p.type
  /-- There is a default value in both or in none. -/
  hasDefault : qualified.hasDefault = p.hasDefault
  /-- The names of the attributes may be qualified. -/
  attributes : List.Forall₂ Qualifies p.attributes qualified.attributes

/-- A method and the same one with attributes, its own and those of its parameters, that may be
qualified. -/
structure Method.QualifiesTo (method qualified : Method) : Prop where
  /-- The name is the same. -/
  name : qualified.name = method.name
  /-- The return type is the same. -/
  returnType : qualified.returnType = method.returnType
  /-- The modifiers are the same. -/
  modifiers : qualified.modifiers = method.modifiers
  /-- The documentation is the same. -/
  documentation : qualified.documentation = method.documentation
  /-- The names of its attributes may be qualified. -/
  attributes : List.Forall₂ Attribute.QualifiesTo method.attributes qualified.attributes
  /-- The names of the attributes of its parameters may be qualified. -/
  parameters : List.Forall₂ MethodParameter.QualifiesTo method.parameters qualified.parameters

/-! ### The attributes of a method -/

namespace Attribute.QualifiesTo

variable {a qualified : Attribute}

/-- The short name of an attribute does not depend on its namespace. -/
theorem shortName_eq (h : a.QualifiesTo qualified) : qualified.shortName = a.shortName := by
  obtain ⟨hname, -⟩ := h
  rw [shortName, shortName]
  generalize qualified.name = name at hname
  cases hname with
  | alone => rfl
  | within scope => exact Text.afterLast_append '.' scope a.name

/-- Neither does its verb. -/
theorem verb?_eq (h : a.QualifiesTo qualified) : qualified.verb? = a.verb? := by
  rw [verb?, verb?, h.shortName_eq]

end Attribute.QualifiesTo

namespace Method

/-- The verbs that a method has by its attributes, each with the first argument of its attribute. -/
def routes (method : Method) : List (HttpVerb × Option (Option String)) :=
  method.verbAttributes.map fun (verb, source) => (verb, source.arguments.head?)

/-- A method has its verb and its route from the same attribute, the only one that gives a verb. -/
theorem verb_route_iff {method : Method} {verb : HttpVerb} {route : String} :
    (∃ source, method.verb = .ok (verb, source) ∧ source.route method.name = .ok route) ↔
      method.routes = [(verb, some (some route))] := by
  rw [Method.verb, routes]
  cases method.verbAttributes with
  | nil => simp
  | cons first rest =>
    cases rest with
    | nil => simp [Prod.ext_iff, Attribute.route_eq_ok_iff]
    | cons second others => simp

/-- A method becomes an endpoint when its documentation, its one verb with a route, the placeholders of
the route and the division of its parameters allow it. -/
theorem toEndpoint_eq_ok_iff_routes {solution : Solution} {method : Method} {service : Service} :
    method.toEndpoint solution = .ok service ↔
      ∃ documentation verb route names bindings,
        documentationOf method.documentation method.name = .ok documentation ∧
        method.routes = [(verb, some (some route))] ∧
        placeholders route method.name = .ok names ∧
        bind (method.parameters.map (·.toService solution)) names method.name = .ok bindings ∧
        service = {
          verb, route, documentation
          parameters := method.parameters.map (·.toService solution)
          name := method.name
          returnType := method.answerType solution
          uriParameters := bindings.uri
          queryParameters := bindings.query
          bodyParameter := bindings.body } := by
  rw [toEndpoint_eq_ok_iff]
  constructor
  · rintro ⟨documentation, verb, source, route, names, bindings, hdoc, hverb, hroute, hrest⟩
    have hroutes := verb_route_iff.mp ⟨source, hverb, hroute⟩
    exact ⟨documentation, verb, route, names, bindings, hdoc, hroutes, hrest⟩
  · rintro ⟨documentation, verb, route, names, bindings, hdoc, hroutes, hrest⟩
    obtain ⟨source, hverb, hroute⟩ := verb_route_iff.mpr hroutes
    exact ⟨documentation, verb, source, route, names, bindings, hdoc, hverb, hroute, hrest⟩

end Method

/-! ### The attributes of a parameter -/

namespace MethodParameter

/-- Does a parameter travel in the body? -/
def isForBody (p : MethodParameter) : Bool :=
  p.attributes.any fromBodyAttributes.contains

/-- A name in a namespace binds no parameter to the body. -/
theorem mem_of_qualifies {name qualified : String} (h : Qualifies name qualified)
    (hbody : qualified ∈ fromBodyAttributes) : name ∈ fromBodyAttributes := by
  cases h with
  | alone => exact hbody
  | within scope =>
    have hdot : ∀ a ∈ fromBodyAttributes, '.' ∉ a.toList := by decide
    exact absurd (by simp) (hdot _ hbody)

/-- Qualifying the attributes of a parameter binds it to the body in no case where it was not. -/
theorem QualifiesTo.isForBody {p qualified : MethodParameter} (h : p.QualifiesTo qualified)
    (hbody : qualified.isForBody = true) : p.isForBody = true := by
  obtain ⟨-, -, -, hattributes⟩ := h
  simp only [MethodParameter.isForBody, List.any_eq_true, List.contains_iff_mem] at hbody ⊢
  generalize p.attributes = names, qualified.attributes = others at hattributes hbody
  induction hattributes with
  | nil => exact hbody
  | cons hname _ ih =>
    rw [List.exists_mem_cons_iff] at hbody ⊢
    exact hbody.imp (mem_of_qualifies hname) ih

/-- A parameter becomes the same one of a service exactly when it does not lose its binding to the
body. -/
theorem QualifiesTo.toService_eq_iff {p qualified : MethodParameter} (h : p.QualifiesTo qualified)
    (solution : Solution) :
    qualified.toService solution = p.toService solution ↔
      (p.isForBody = true → qualified.isForBody = true) := by
  constructor
  · intro heq hbody
    have hflag : qualified.isForBody = p.isForBody := congrArg ServiceParameter.isFromBody heq
    exact hflag.trans hbody
  · intro hkeeps
    have hflag : qualified.isForBody = p.isForBody := Bool.eq_iff_iff.mpr ⟨h.isForBody, hkeeps⟩
    have hparts : (⟨qualified.name, solution.resolve qualified.type, qualified.hasDefault,
        qualified.isForBody⟩ : ServiceParameter) =
          ⟨p.name, solution.resolve p.type, p.hasDefault, p.isForBody⟩ := by
      rw [h.name, h.type, h.hasDefault, hflag]
    exact hparts

variable {parameters others : List MethodParameter}

/-- Parameters become the same ones exactly when none of them loses its binding to the body. -/
theorem map_toService_eq_iff (h : List.Forall₂ QualifiesTo parameters others) (solution : Solution) :
    others.map (·.toService solution) = parameters.map (·.toService solution) ↔
      List.Forall₂ (fun p qualified => p.isForBody = true → qualified.isForBody = true)
        parameters others := by
  induction h with
  | nil => simp
  | cons hp _ ih =>
    rw [List.map_cons, List.map_cons, List.cons_eq_cons, List.forall₂_cons, hp.toService_eq_iff, ih]

/-- Qualifying their attributes binds no more parameters to the body. -/
theorem length_filter_isFromBody_le (h : List.Forall₂ QualifiesTo parameters others)
    (solution : Solution) :
    ((others.map (·.toService solution)).filter (·.isFromBody)).length ≤
      ((parameters.map (·.toService solution)).filter (·.isFromBody)).length := by
  induction h with
  | nil => rfl
  | @cons p qualified _ _ hp _ ih =>
    have hflag (r : MethodParameter) : (r.toService solution).isFromBody = r.isForBody := rfl
    rw [List.map_cons, List.map_cons, List.filter_cons, List.filter_cons, hflag, hflag]
    split
    · next hqualified =>
      rw [if_pos (hp.isForBody hqualified), List.length_cons, List.length_cons]
      exact Nat.succ_le_succ ih
    · split
      · exact ih.trans (Nat.le_succ _)
      · exact ih

end MethodParameter

/-! ### The method as a whole -/

namespace Method.QualifiesTo

variable {method qualified : Method}

/-- Whether a method is an action does not depend on the namespaces of its attributes. -/
theorem isAction_eq (h : method.QualifiesTo qualified) : qualified.isAction = method.isAction := by
  have hany : (qualified.attributes.any fun a => nonActionAttributes.contains a.shortName) =
      method.attributes.any fun a => nonActionAttributes.contains a.shortName := by
    have hattributes := h.attributes
    generalize method.attributes = attributes, qualified.attributes = others at hattributes
    induction hattributes with
    | nil => rfl
    | cons ha _ ih => rw [List.any_cons, List.any_cons, ha.shortName_eq, ih]
  rw [isAction, isAction, h.modifiers, hany]

/-- Neither do its verbs and their routes. -/
theorem routes_eq (h : method.QualifiesTo qualified) : qualified.routes = method.routes := by
  rw [routes, routes, verbAttributes, verbAttributes]
  have hattributes := h.attributes
  generalize method.attributes = attributes, qualified.attributes = others at hattributes
  induction hattributes with
  | nil => rfl
  | @cons a other _ _ ha _ ih =>
    rw [List.filterMap_cons, List.filterMap_cons, ha.verb?_eq]
    cases a.verb? with
    | none => exact ih
    | some verb => simp only [Option.map_some, List.map_cons, ha.arguments, ih]

/-- The answer of a method has the same type. -/
theorem answerType_eq (h : method.QualifiesTo qualified) (solution : Solution) :
    qualified.answerType solution = method.answerType solution := by
  rw [answerType, answerType, h.returnType]

/-- A method redirects under qualified names exactly when it does under short ones. -/
theorem isRedirect_eq (h : method.QualifiesTo qualified) (solution : Solution) :
    qualified.isRedirect solution = method.isRedirect solution := by
  rw [isRedirect, isRedirect, h.answerType_eq]

/-- A method whose parameters become the same ones becomes the same service. -/
theorem toService_iff_of_parameters (h : method.QualifiesTo qualified) {solution : Solution}
    (hparameters : qualified.parameters.map (·.toService solution) =
      method.parameters.map (·.toService solution)) (service : Service) :
    qualified.toService solution = .ok (some service) ↔
      method.toService solution = .ok (some service) := by
  rw [toService_eq_some_iff, toService_eq_some_iff, h.isRedirect_eq, toEndpoint_eq_ok_iff_routes,
    toEndpoint_eq_ok_iff_routes, h.name, h.documentation, h.routes_eq, h.answerType_eq, hparameters]

/-- A method that becomes a service still becomes one under qualified names. -/
theorem exists_toService (h : method.QualifiesTo qualified) {solution : Solution}
    (made : ∃ service, method.toService solution = .ok (some service)) :
    ∃ service, qualified.toService solution = .ok (some service) := by
  obtain ⟨service, hmade⟩ := made
  obtain ⟨hredirect, hmade⟩ := toService_eq_some_iff.mp hmade
  obtain ⟨documentation, verb, route, names, bindings, hdoc, hroutes, hnames, hbind, -⟩ :=
    toEndpoint_eq_ok_iff_routes.mp hmade
  have hone := (bind_eq_ok_iff.mp hbind).1
  have hfewer := MethodParameter.length_filter_isFromBody_le h.parameters solution
  obtain ⟨others, hothers⟩ : ∃ others, bind (qualified.parameters.map (·.toService solution)) names
      qualified.name = .ok others := ⟨_, bind_eq_ok_iff.mpr ⟨hfewer.trans hone, rfl⟩⟩
  rw [← h.name, ← h.documentation] at hdoc
  rw [← h.name] at hnames
  rw [← h.routes_eq] at hroutes
  exact ⟨_, toService_eq_some_iff.mpr ⟨(h.isRedirect_eq solution).trans hredirect,
    toEndpoint_eq_ok_iff_routes.mpr ⟨documentation, verb, route, names, others, hdoc, hroutes, hnames,
      hothers, rfl⟩⟩⟩

end Method.QualifiesTo

/-- What namespaces before the names of attributes change, for every method and every solution. The
method stays an action or none, and when it becomes a service it still does. It becomes the same service
exactly when no parameter of the service that it becomes has lost its binding to the body. -/
theorem Method.toService_qualified_iff {method qualified : Method} (h : method.QualifiesTo qualified)
    (solution : Solution) :
    qualified.isAction = method.isAction ∧
      ((∃ service, method.toService solution = .ok (some service)) →
        ∃ service, qualified.toService solution = .ok (some service)) ∧
      ((∀ service, qualified.toService solution = .ok (some service) ↔
          method.toService solution = .ok (some service)) ↔
        ((∃ service, qualified.toService solution = .ok (some service)) →
          List.Forall₂ (fun p q : MethodParameter => p.isForBody = true → q.isForBody = true)
            method.parameters qualified.parameters)) := by
  refine ⟨h.isAction_eq, h.exists_toService, ?_⟩
  constructor
  · rintro hsame ⟨service, hmade⟩
    have hparameters := (parameters_of_toService hmade).1.symm.trans
      (parameters_of_toService ((hsame service).mp hmade)).1
    exact (MethodParameter.map_toService_eq_iff h.parameters solution).mp hparameters
  · intro hkeeps service
    have hsame (made : ∃ service, qualified.toService solution = .ok (some service)) :=
      h.toService_iff_of_parameters
        ((MethodParameter.map_toService_eq_iff h.parameters solution).mpr (hkeeps made)) service
    constructor
    · intro hmade
      exact (hsame ⟨service, hmade⟩).mp hmade
    · intro hmade
      exact (hsame (h.exists_toService ⟨service, hmade⟩)).mpr hmade

/-- A method that saves an order, with the names of three of its attributes. -/
def saveOrder (verb body check : String) : Method where
  name := "Save"
  returnType := { name := "Task" }
  attributes := [⟨verb, [some "orders"]⟩]
  modifiers := ["public"]
  parameters := [{ name := "order", type := { name := "Order" }, attributes := [check, body] }]
  documentation := some [{ tag := "summary", text := "Saves an order." }]

/-- A namespace before the verb and before an attribute that says nothing about the body changes
nothing. -/
theorem Method.toService_qualified_saveOrder :
    let method := saveOrder "HttpPut" "FromBody" "Required"
    let qualified := saveOrder "Microsoft.AspNetCore.Mvc.HttpPut" "FromBody" "Annotations.Required"
    method.QualifiesTo qualified ∧ qualified.isAction = method.isAction ∧
      ∀ service, qualified.toService (.ofProjects []) = .ok (some service) ↔
        method.toService (.ofProjects []) = .ok (some service) := by
  intro method qualified
  have h : method.QualifiesTo qualified := {
    name := rfl
    returnType := rfl
    modifiers := rfl
    documentation := rfl
    attributes := .cons ⟨.within "Microsoft.AspNetCore.Mvc", rfl⟩ .nil
    parameters := .cons ⟨rfl, rfl, rfl, .cons (.within "Annotations") (.cons .alone .nil)⟩ .nil }
  obtain ⟨haction, -, hsame⟩ := toService_qualified_iff h (.ofProjects [])
  exact ⟨h, haction, hsame.mpr fun _ => .cons (fun _ => by decide) .nil⟩

/-- A namespace before the attribute that binds a parameter to the body sends it in the query. -/
theorem Method.not_toService_qualified_order :
    let method := saveOrder "HttpPut" "FromBody" "Required"
    let qualified := saveOrder "HttpPut" "Microsoft.AspNetCore.Mvc.FromBody" "Required"
    method.QualifiesTo qualified ∧
      (method.toService (.ofProjects [])).map (fun made => made.map fun service =>
        (service.bodyParameter.map (·.name), service.queryParameters.map (·.name))) =
          .ok (some (some "order", [])) ∧
      (qualified.toService (.ofProjects [])).map (fun made => made.map fun service =>
        (service.bodyParameter.map (·.name), service.queryParameters.map (·.name))) =
          .ok (some (none, ["order"])) := by
  intro method qualified
  have h : method.QualifiesTo qualified := {
    name := rfl
    returnType := rfl
    modifiers := rfl
    documentation := rfl
    attributes := .cons ⟨.alone, rfl⟩ .nil
    parameters := .cons ⟨rfl, rfl, rfl,
      .cons .alone (.cons (.within "Microsoft.AspNetCore.Mvc") .nil)⟩ .nil }
  exact ⟨h, by decide, by decide⟩

end ClientGen
