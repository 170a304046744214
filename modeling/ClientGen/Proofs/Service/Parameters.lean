import ClientGen.Proofs.Service.Outcome
import Mathlib.Data.List.Forall2
import Mathlib.Data.List.TakeDrop

/-!
# The parameters of a service

A service has a parameter for each parameter of its method, in the same order. It divides them into
those in the path, those in the query and the one in the body, so that every one of them is in one
part as often as it is in the signature, and the first two parts keep the order of the signature. A
name is in the path part only when the route has a placeholder for it, and in the query part only
when it has none. All of this holds of every service, also when names are repeated.
-/

namespace ClientGen

/-- What a parameter of a method becomes in a service. -/
structure MethodParameter.Becomes (solution : Solution) (p : MethodParameter)
    (q : ServiceParameter) : Prop where
  /-- The name is kept. -/
  name : q.name = p.name
  /-- The type is resolved. -/
  type : q.type = solution.resolve p.type
  /-- It can be left out exactly when it has a default. -/
  optional : q.isOptional = p.hasDefault
  /-- It travels in the body exactly when an attribute says so. -/
  marked : q.isFromBody = true ↔ "FromBody" ∈ p.attributes ∨ "FromBodyAttribute" ∈ p.attributes

/-- A service divides its parameters by where they travel, given the placeholders of its route. -/
structure Service.Divides (service : Service) (placeholders : List String) : Prop where
  /-- The three parts together are the parameters. -/
  whole : (service.uriParameters ++ service.queryParameters ++
    service.bodyParameter.toList).Perm service.parameters
  /-- The path parameters are in the order of the signature. -/
  uri_sublist : service.uriParameters.Sublist service.parameters
  /-- The query parameters are in the order of the signature. -/
  query_sublist : service.queryParameters.Sublist service.parameters
  /-- Every path parameter has a placeholder. -/
  placed : ∀ p ∈ service.uriParameters, p.name ∈ placeholders
  /-- No query parameter has a placeholder. -/
  unplaced : ∀ p ∈ service.queryParameters, p.name ∉ placeholders
  /-- No name is in the path and in the query. -/
  disjoint : (service.uriParameters.map (·.name)).Disjoint (service.queryParameters.map (·.name))
  /-- The body parameter is neither in the path nor in the query. -/
  body_apart : ∀ p ∈ service.bodyParameter, p ∉ service.uriParameters ∧ p ∉ service.queryParameters

/-- The parameter that is made of a parameter of a method is what that becomes. -/
theorem MethodParameter.becomes_toService (solution : Solution) (p : MethodParameter) :
    p.Becomes solution (p.toService solution) where
  name := rfl
  type := rfl
  optional := rfl
  marked := by
    have hmark : p.attributes.any fromBodyAttributes.contains = true ↔
        ∃ a ∈ p.attributes, a = "FromBody" ∨ a = "FromBodyAttribute" := by
      simp [fromBodyAttributes]
    rw [MethodParameter.toService, hmark]
    constructor
    · rintro ⟨a, ha, rfl | rfl⟩
      · exact .inl ha
      · exact .inr ha
    · rintro (ha | ha)
      · exact ⟨_, ha, .inl rfl⟩
      · exact ⟨_, ha, .inr rfl⟩

/-- Parameters divided by a mark, and those without it by a second test, are all the parameters. -/
theorem perm_filter_filter (parameters : List ServiceParameter)
    (marked placed : ServiceParameter → Bool) :
    (parameters.filter (fun p => !marked p && placed p) ++
      parameters.filter (fun p => !marked p && !placed p) ++
      parameters.filter marked).Perm parameters := by
  let unmarked := parameters.filter fun p => !marked p
  have hplaced : parameters.filter (fun p => !marked p && placed p) = unmarked.filter placed := by
    rw [List.filter_filter]
    exact List.filter_congr fun p _ => Bool.and_comm _ _
  have hunplaced : parameters.filter (fun p => !marked p && !placed p) =
      unmarked.filter fun p => !placed p := by
    rw [List.filter_filter]
    exact List.filter_congr fun p _ => Bool.and_comm _ _
  have hunmarked : (unmarked.filter placed ++ unmarked.filter fun p => !placed p).Perm unmarked :=
    List.filter_append_perm placed unmarked
  have hall : (parameters.filter marked ++ unmarked).Perm parameters :=
    List.filter_append_perm marked parameters
  rw [hplaced, hunplaced]
  exact (hunmarked.append_right _).trans (List.perm_append_comm.trans hall)

/-- Every service has the parameters of its method, in order, and divides them by where they travel
with the placeholders of its own route. -/
theorem Method.divides_of_toService {solution : Solution} {method : Method} {service : Service}
    (made : method.toService solution = .ok (some service)) :
    List.Forall₂ (MethodParameter.Becomes solution) method.parameters service.parameters ∧
      ∃ placeholders, Route.placeholders service.route = .ok placeholders ∧
        service.Divides placeholders := by
  obtain ⟨hparameters, hone, names, hnames, huri, hquery, hbody⟩ := parameters_of_toService made
  have hplaced {p : ServiceParameter} (hp : p ∈ service.uriParameters) :
      p.isFromBody = false ∧ p.name ∈ names := by
    rw [huri] at hp
    have hboth := (List.mem_filter.mp hp).2
    simpa using hboth
  have hunplaced {p : ServiceParameter} (hp : p ∈ service.queryParameters) :
      p.isFromBody = false ∧ p.name ∉ names := by
    rw [hquery] at hp
    have hboth := (List.mem_filter.mp hp).2
    simpa using hboth
  have hsent : service.bodyParameter.toList = service.parameters.filter (·.isFromBody) := by
    rw [hbody, ← List.take_one, List.take_of_length_le hone]
  constructor
  · rw [hparameters, List.forall₂_map_right_iff]
    exact List.forall₂_same.mpr fun p _ => p.becomes_toService solution
  · refine ⟨names, hnames, {
      whole := ?_
      uri_sublist := huri ▸ List.filter_sublist
      query_sublist := hquery ▸ List.filter_sublist
      placed := fun p hp => (hplaced hp).2
      unplaced := fun p hp => (hunplaced hp).2
      disjoint := ?_
      body_apart := ?_ }⟩
    · rw [huri, hquery, hsent]
      exact perm_filter_filter service.parameters (·.isFromBody) fun p => names.contains p.name
    · intro name hpath hasked
      obtain ⟨p, hp, rfl⟩ := List.mem_map.mp hpath
      obtain ⟨q, hq, hname⟩ := List.mem_map.mp hasked
      exact (hunplaced hq).2 (hname ▸ (hplaced hp).2)
    · intro p hp
      have hmarked : p.isFromBody = true := by
        have hmem : p ∈ service.parameters.filter (·.isFromBody) := hsent ▸ Option.mem_toList.mpr hp
        exact (List.mem_filter.mp hmem).2
      constructor
      · intro hpath
        exact Bool.false_ne_true ((hplaced hpath).1.symm.trans hmarked)
      · intro hasked
        exact Bool.false_ne_true ((hunplaced hasked).1.symm.trans hmarked)

/-- A method that repeats a name: two of its parameters share the placeholders of the route with
each other, and the name with the parameter in the body. -/
def moveItem : Method where
  name := "Move"
  returnType := { name := "Task" }
  attributes := [⟨"HttpPost", [some "items/\x7bid:int\x7d/\x7bid?\x7d"]⟩]
  parameters := [
    { name := "id", type := { name := "int" } },
    { name := "page", type := { name := "int" }, hasDefault := true },
    { name := "id", type := { name := "Item" }, attributes := ["FromBody"] },
    { name := "id", type := { name := "string" } }]
  documentation := some [{ tag := "summary", text := "Moves an item." }]

/-- The service that the method becomes. -/
def movedItem : Service :=
  let first : ServiceParameter := { name := "id", type := { name := "int" } }
  let page : ServiceParameter := { name := "page", type := { name := "int" }, isOptional := true }
  let item : ServiceParameter := { name := "id", type := { name := "Item" }, isFromBody := true }
  let last : ServiceParameter := { name := "id", type := { name := "string" } }
  { verb := .post
    route := "items/\x7bid:int\x7d/\x7bid?\x7d"
    name := "Move"
    returnType := { name := "Task" }
    parameters := [first, page, item, last]
    uriParameters := [first, last]
    queryParameters := [page]
    bodyParameter := some item
    documentation := { summary := "Moves an item." } }

/-- Parameters that share a name are divided too, each by its own mark. -/
theorem Method.divides_movedItem :
    moveItem.toService (.ofProjects []) = .ok (some movedItem) ∧
      List.Forall₂ (MethodParameter.Becomes (.ofProjects [])) moveItem.parameters
        movedItem.parameters ∧
      ∃ placeholders, Route.placeholders movedItem.route = .ok placeholders ∧
        movedItem.Divides placeholders := by
  have made : moveItem.toService (.ofProjects []) = .ok (some movedItem) := by decide
  exact ⟨made, divides_of_toService made⟩

end ClientGen
