import ClientGen.Controller
import ClientGen.Proofs.Service.Outcome

/-!
# The services of endpoints

The services of a controller are made from endpoints alone: those that it declares itself, then those
that the classes above it declare. A method that is no endpoint is passed over before anything is asked
of it, so it neither gives a service nor an error.
-/

namespace ClientGen

variable {solution : Solution}

namespace Method

/-- Is a method an endpoint for clients? They can call it, and it does not redirect them. -/
def isEndpoint (solution : Solution) (method : Method) : Bool :=
  method.isAction && !method.isRedirect solution

/-- A redirect becomes nothing. -/
theorem toService_of_isRedirect {method : Method} (h : method.isRedirect solution = true) :
    method.toService solution = .ok none := by
  rw [toService, if_pos h]

/-- Any other method becomes the service of an endpoint. -/
theorem toService_of_not_isRedirect {method : Method} (h : method.isRedirect solution = false) :
    method.toService solution = (method.toEndpoint solution).map some := by
  rw [toService, if_neg (Bool.eq_false_iff.mp h)]

/-- Redirects among some methods do not matter for the services that the methods become. -/
theorem mapM_toService (methods : List Method) :
    Except.map (fun found => found.filterMap id) (methods.mapM (·.toService solution)) =
      (methods.filter fun method => !method.isRedirect solution).mapM (·.toEndpoint solution) := by
  induction methods with
  | nil => rfl
  | cons method rest ih =>
    rw [List.mapM_cons]
    cases hredirect : method.isRedirect solution with
    | true =>
      rw [List.filter_cons_of_neg (by simp [hredirect]), ← ih, toService_of_isRedirect hredirect]
      cases (rest.mapM fun method => method.toService solution) <;> rfl
    | false =>
      rw [List.filter_cons_of_pos (by simp [hredirect]), List.mapM_cons, ← ih,
        toService_of_not_isRedirect hredirect]
      cases method.toEndpoint solution with
      | error e => rfl
      | ok service => cases (rest.mapM fun method => method.toService solution) <;> rfl

end Method

namespace ClassDecl

/-- The endpoints that a class declares, in order. -/
def endpoints (solution : Solution) (c : ClassDecl) : List Method :=
  c.methods.filter (·.isEndpoint solution)

/-- The methods of some classes that clients can call and that do not redirect them are the endpoints
of the classes. -/
theorem filter_flatMap_methods (classes : List ClassDecl) :
    ((classes.flatMap (·.methods)).filter (·.isAction)).filter
        (fun method => !method.isRedirect solution) =
      classes.flatMap (·.endpoints solution) := by
  rw [List.filter_filter, List.filter_flatMap]
  simp only [endpoints, Method.isEndpoint, Bool.and_comm]

/-- The services of a controller are those of its endpoints and of the endpoints above it. -/
theorem services_eq_mapM_endpoints (solution : Solution) (controller : ClassDecl) :
    controller.services solution =
      ((controller.ancestors solution controller.name inheritanceDepth).map fun above =>
        above.flatMap (·.endpoints solution)) >>= fun inherited =>
          (controller.endpoints solution ++ inherited).mapM (·.toEndpoint solution) := by
  rw [services, actions]
  cases controller.ancestors solution controller.name inheritanceDepth with
  | error e => rfl
  | ok above =>
    let methods := ((controller :: above).flatMap (·.methods)).filter (·.isAction)
    have hservices : (methods.mapM (·.toService solution) >>= fun found =>
        pure (found.filterMap id)) =
          (controller.endpoints solution ++ above.flatMap (·.endpoints solution)).mapM
            (·.toEndpoint solution) := by
      rw [bind_pure_comp]
      refine (Method.mapM_toService methods).trans ?_
      rw [filter_flatMap_methods, List.flatMap_cons]
    exact hservices

end ClassDecl

end ClientGen
