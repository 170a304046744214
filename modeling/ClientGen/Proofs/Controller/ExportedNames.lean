import ClientGen.Proofs.Controller.Endpoints
import Mathlib.Data.List.Nodup

/-!
# The functions that a client module exports

A client module exports one function for each service of its controller, under the name of the
method. The services come from the methods of the controller and then from those of its base
controller, without the methods that clients cannot call and without redirects. Nothing tells
methods of one name apart: neither an override from the method that it overrides, nor overloads from
each other. So the exported names are unique exactly when no two endpoints of the two classes share
their name.
-/

namespace ClientGen

namespace ClassDecl

/-- The names of the endpoints that a class declares, in order. -/
def endpointNames (solution : Solution) (c : ClassDecl) : List String :=
  (c.methods.filter (·.isEndpoint solution)).map (·.name)

/-- The base controller that a class takes methods from: the class that its base type means, unless
that is a class of the framework. -/
def baseController? (solution : Solution) (c : ClassDecl) : Option ClassDecl :=
  c.nextBase?.bind solution.findClass

variable {solution : Solution} {controller : ClassDecl}

/-- The only class above a controller that counts is its base controller. -/
theorem eq_baseController?_of_ancestors {name : String} {above : List ClassDecl}
    (h : controller.ancestors solution name inheritanceDepth = .ok above) :
    above = (controller.baseController? solution).toList := by
  rw [inheritanceDepth, ancestors] at h
  rw [baseController?]
  split at h
  · next hnone =>
    rw [hnone]
    exact (Except.ok.inj h).symm
  · next base hbase =>
    rw [hbase, Option.bind_some]
    split at h
    · cases h
    · next found hfound =>
      rw [hfound]
      exact (Except.ok.inj h).symm

/-- The services of some endpoints have their names, in order. -/
theorem map_name_of_mapM {methods : List Method} {services : List Service}
    (h : methods.mapM (·.toEndpoint solution) = .ok services) :
    services.map (·.name) = methods.map (·.name) := by
  have hall := mapM_eq_ok_iff.mp h
  clear h
  induction hall with
  | nil => rfl
  | cons hmade _ ih =>
    obtain ⟨_, _, _, _, _, _, -, -, -, -, -, rfl⟩ := Method.toEndpoint_eq_ok_iff.mp hmade
    rw [List.map_cons, List.map_cons, ih]

/-- The services of a controller have the names of its own endpoints and then of those of its base
controller. -/
theorem map_name_services {services : List Service}
    (made : controller.services solution = .ok services) :
    services.map (·.name) = controller.endpointNames solution ++
      (controller.baseController? solution).toList.flatMap (·.endpointNames solution) := by
  rw [services_eq_mapM_endpoints] at made
  obtain ⟨_, hinherited, made⟩ := bind_eq_ok_iff.mp made
  obtain ⟨above, habove, rfl⟩ := map_eq_ok_iff.mp hinherited
  rw [map_name_of_mapM made, List.map_append, List.map_flatMap,
    eq_baseController?_of_ancestors habove]
  rfl

/-- The exported names of a controller are those of its endpoints and then of those of its base
controller. They are unique exactly when neither of the two classes declares two endpoints of one
name and the controller declares no endpoint of a name that one of its base controller has. -/
theorem exportedNames_nodup_iff {services : List Service}
    (made : controller.services solution = .ok services) :
    services.map (·.name) = controller.endpointNames solution ++
        (controller.baseController? solution).toList.flatMap (·.endpointNames solution) ∧
      ((services.map (·.name)).Nodup ↔
        (controller.endpointNames solution).Nodup ∧
          ∀ base ∈ controller.baseController? solution, (base.endpointNames solution).Nodup ∧
            ∀ name ∈ controller.endpointNames solution, name ∉ base.endpointNames solution) := by
  refine ⟨map_name_services made, ?_⟩
  rw [map_name_services made]
  cases controller.baseController? solution with
  | none => simp
  | some base => simp [List.nodup_append', List.disjoint_left]

/-- A class with methods that answer `GET` requests, each given by its name and its answer. -/
def getClass (name : String) (base : Option TypeRef) (methods : List (String × String)) :
    ClassDecl where
  name := name
  baseType := base
  methods := methods.map fun (method, answer) => {
    name := method
    returnType := { name := answer }
    attributes := [⟨"HttpGet", [some "users"]⟩]
    modifiers := ["public"]
    documentation := some [{ tag := "summary", text := method }] }

/-- A solution with a base controller that has one endpoint. -/
def pingSolution : Solution :=
  .ofProjects [{
    name := "Club.FrontEnd"
    documents := [{
      name := "Base.cs", classes := [getClass "BaseController" none [("Ping", "string")]] }] }]

/-- A controller on top of it. -/
def usersController (methods : List (String × String)) : ClassDecl :=
  getClass "UsersController" (some { name := "BaseController" }) methods

/-- An overload that redirects is no endpoint, and the exported names stay unique. -/
theorem exportedNames_nodup_users :
    ∃ services, (usersController [("Find", "User"), ("Find", "RedirectResult")]).services pingSolution =
        .ok services ∧
      services.map (·.name) = ["Find", "Ping"] ∧ (services.map (·.name)).Nodup := by
  have facts : ((usersController [("Find", "User"), ("Find", "RedirectResult")]).services
      pingSolution).toOption.isSome = true := by decide
  cases made : (usersController [("Find", "User"), ("Find", "RedirectResult")]).services
      pingSolution with
  | error e =>
    rw [made] at facts
    cases facts
  | ok services =>
    obtain ⟨hnames, hunique⟩ := exportedNames_nodup_iff made
    exact ⟨services, rfl, hnames.trans (by decide), hunique.mpr (by decide)⟩

/-- A controller that overrides a method of its base controller exports both under one name. -/
theorem not_exportedNames_nodup_override :
    ∃ services, (usersController [("Ping", "string")]).services pingSolution = .ok services ∧
      services.map (·.name) = ["Ping", "Ping"] ∧ ¬ (services.map (·.name)).Nodup := by
  have facts : ((usersController [("Ping", "string")]).services pingSolution).map
      (fun services => services.map (·.name)) = .ok ["Ping", "Ping"] := by decide
  obtain ⟨services, made, hnames⟩ := map_eq_ok_iff.mp facts
  exact ⟨services, made, hnames, by rw [hnames]; decide⟩

end ClassDecl

end ClientGen
