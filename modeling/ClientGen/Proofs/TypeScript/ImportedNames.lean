import ClientGen.CSharp.MethodSyntax
import ClientGen.Proofs.Service.Outcome
import ClientGen.Proofs.TypeRef
import ClientGen.Proofs.TypeScript.Imports
import Mathlib.Data.List.Nodup

/-!
# Every imported name has one module

A reference that is read from source code has no scope, at whatever depth, and gets the scopes of the
solution when it is resolved. The solution has one scope for each name, so all types of one name
that resolved signatures mention are declared in one namespace, and their module is one too. The
imports list their modules once and the names under each module once. So no name is bound twice by
the imports of a client module, however many namespaces of the solution declare a type of that name.
-/

namespace ClientGen

/-- Neither a reference nor any of its arguments, at whatever depth, has a scope. -/
inductive TypeRef.Unscoped : TypeRef → Prop
  /-- A reference without a scope has arguments of this kind. -/
  | mk {name : String} {arguments : List TypeRef} {nullable array : Bool}
    (inner : ∀ argument ∈ arguments, Unscoped argument) :
    Unscoped ⟨name, "", arguments, nullable, array⟩

/-- The types in the signature of a method have no scopes. -/
structure Method.Unscoped (method : Method) : Prop where
  /-- The answer has none. -/
  answer : method.returnType.Unscoped
  /-- No parameter has any. -/
  parameters : ∀ p ∈ method.parameters, p.type.Unscoped

namespace TypeScript

/-- A reference without scopes is one without declared types. -/
theorem unscoped_iff {ref : TypeRef} : ref.Unscoped ↔ declaredTypes ref = [] := by
  induction ref using TypeRef.induct with
  | step name scope arguments nullable array ih =>
    rw [declaredTypes, declaredTypesAll_eq_flatMap]
    constructor
    · rintro ⟨inner⟩
      rw [if_pos rfl]
      exact List.flatMap_eq_nil_iff.mpr fun a ha => (ih a ha).mp (inner a ha)
    · intro h
      split at h
      · next hscope =>
        subst hscope
        exact .mk fun a ha => (ih a ha).mpr (List.flatMap_eq_nil_iff.mp h a ha)
      · cases h

/-- It is decidable whether a reference has scopes. -/
instance : DecidablePred TypeRef.Unscoped :=
  fun _ => decidable_of_iff _ unscoped_iff.symm

/-- It is decidable whether the signature of a method has scopes. -/
instance : DecidablePred Method.Unscoped :=
  fun method => decidable_of_iff
    (method.returnType.Unscoped ∧ ∀ p ∈ method.parameters, p.type.Unscoped)
    ⟨fun h => ⟨h.1, h.2⟩, fun h => ⟨h.answer, h.parameters⟩⟩

variable {solution : Solution}

/-- Every declared type in a resolved reference without scopes of its own has the scope that the
solution has for its name. -/
theorem scope_of_mem_declaredTypes {ref node : TypeRef} (h : ref.Unscoped)
    (hnode : node ∈ declaredTypes (solution.resolve ref)) :
    node.scope = solution.scopeOf node.name := by
  induction h with
  | @mk name arguments nullable array _ ih =>
    rw [Solution.resolve, if_pos rfl, declaredTypes, declaredTypesAll_eq_flatMap,
      Solution.resolveAll_eq_map] at hnode
    have hinner (hnode : node ∈ (arguments.map solution.resolve).flatMap declaredTypes) :
        node.scope = solution.scopeOf node.name := by
      obtain ⟨_, hresolved, hnode⟩ := List.mem_flatMap.mp hnode
      obtain ⟨argument, hargument, rfl⟩ := List.mem_map.mp hresolved
      exact ih argument hargument hnode
    split at hnode
    · exact hinner hnode
    · rcases List.mem_cons.mp hnode with rfl | hnode
      · rfl
      · exact hinner hnode

/-- Taking a wrapper off the answer leaves no new declared types. -/
theorem mem_declaredTypes_of_unwrapAsync {ref node : TypeRef}
    (h : node ∈ declaredTypes (unwrapAsync ref)) : node ∈ declaredTypes ref := by
  unfold unwrapAsync at h
  split at h
  · next answer hone =>
    split at h
    · exact mem_declaredTypes_of_argument (hone ▸ List.mem_singleton_self answer) h
    · exact h
  · exact h

/-- Every declared type that a service mentions has the scope that the solution has for its name,
when the signature of its method has no scopes. -/
theorem scope_of_mem_signatureTypes {method : Method} {service : Service} {ref node : TypeRef}
    (made : method.toService solution = .ok (some service)) (unscoped : method.Unscoped)
    (href : ref ∈ signatureTypes service) (hnode : node ∈ declaredTypes ref) :
    node.scope = solution.scopeOf node.name := by
  obtain ⟨-, -, hanswer, -⟩ := Method.description_of_toService made
  have hparameters := (Method.parameters_of_toService made).1
  rcases List.mem_cons.mp href with rfl | href
  · rw [hanswer] at hnode
    exact scope_of_mem_declaredTypes unscoped.answer (mem_declaredTypes_of_unwrapAsync hnode)
  · rw [hparameters, List.map_map] at href
    obtain ⟨p, hp, rfl⟩ := List.mem_map.mp href
    exact scope_of_mem_declaredTypes (unscoped.parameters p hp) hnode

/-- The names that the imports of a module bind, in order. -/
def importedNames (services : List Service) (productName : String) : List String :=
  (imports services productName).flatMap (·.2)

/-- A name is imported from the module of some mentioned type of that name. -/
theorem exists_mentioned_of_mem_imports {services : List Service} {productName name : String}
    {entry : String × List String} (hentry : entry ∈ imports services productName)
    (hname : name ∈ entry.2) :
    ∃ node ∈ mentioned services, modelModule node.scope productName = entry.1 ∧ node.name = name := by
  rw [← namesUnder_of_mem (sorted_imports services productName) hentry] at hname
  exact mem_namesUnder_imports.mp hname

/-- The imports of the services of methods whose types have no scopes bind no name twice: every name
is listed once, and under the module of the namespace that the solution has for it. -/
theorem importedNames_bound_once {methods : List Method} {services : List Service}
    (productName : String) (unscoped : ∀ method ∈ methods, method.Unscoped)
    (made : ∀ service ∈ services, ∃ method ∈ methods,
      method.toService solution = .ok (some service)) :
    (importedNames services productName).Nodup ∧
      ∀ entry ∈ imports services productName, ∀ name ∈ entry.2,
        entry.1 = modelModule (solution.scopeOf name) productName := by
  have hmodule : ∀ entry ∈ imports services productName, ∀ name ∈ entry.2,
      entry.1 = modelModule (solution.scopeOf name) productName := by
    intro entry hentry name hname
    obtain ⟨node, hnode, hplace, rfl⟩ := exists_mentioned_of_mem_imports hentry hname
    obtain ⟨service, hservice, hnode⟩ := List.mem_flatMap.mp hnode
    rw [declaredTypesAll_eq_flatMap] at hnode
    obtain ⟨ref, href, hnode⟩ := List.mem_flatMap.mp hnode
    obtain ⟨method, hmethod, hmade⟩ := made service hservice
    rw [← hplace, scope_of_mem_signatureTypes hmade (unscoped method hmethod) href hnode]
  refine ⟨List.nodup_flatMap.mpr ⟨?_, ?_⟩, hmodule⟩
  · exact fun entry hentry => (sorted_names_imports services productName entry hentry).imp ne_of_lt
  · -- two entries with a name in common would be of one module, but each module has one entry
    have hsorted := List.pairwise_map.mp (sorted_imports services productName)
    refine hsorted.imp_of_mem fun {left right} hleft hright hlt name hname hname' => ?_
    have hsame : left.1 = right.1 :=
      (hmodule left hleft name hname).trans (hmodule right hright name hname').symm
    exact absurd hsame (ne_of_lt hlt)

/-- A solution that declares a type of one name in two namespaces. -/
def twoOrderTypes : Solution :=
  .ofProjects [{
    name := "Shop.Orders"
    documents := [
      { name := "Orders.cs", types := [
        { name := "Page", scope := "Shop.Core" }, { name := "OrderDto", scope := "Shop.Orders.Dto" }] },
      { name := "Legacy.cs", types := [{ name := "OrderDto", scope := "Shop.Legacy" }] }] }]

/-- A method that takes something and answers with something. -/
def tradeMethod (name : String) (taken answer : TypeRef) : Method where
  name := name
  returnType := answer
  parameters := [{ name := "given", type := taken }]
  attributes := [⟨"HttpGet", [some "orders"]⟩]
  documentation := some [{ tag := "summary", text := name }]

/-- Two methods that mention the type of that name at different depths. -/
def orderMethods : List Method :=
  let order : TypeRef := { name := "OrderDto" }
  [tradeMethod "List" { name := "IList", arguments := [order], array := true }
      { name := "Task", arguments := [{ name := "Page", arguments := [order] }] },
    tradeMethod "Find" { name := "int" } order]

/-- The services that they become. -/
def orderServices : List Service :=
  orderMethods.filterMap fun method =>
    match method.toService twoOrderTypes with
    | .ok service => service
    | .error _ => none

/-- The type is imported once, from the module of the namespace that declares it first. -/
theorem importedNames_orders :
    orderServices.map (·.name) = ["List", "Find"] ∧
      (∀ method ∈ orderMethods, method.Unscoped) ∧
      (∀ service ∈ orderServices, ∃ method ∈ orderMethods,
        method.toService twoOrderTypes = .ok (some service)) ∧
      imports orderServices "Shop" = [("core", ["Page"]), ("orders/dto", ["OrderDto"])] ∧
      (importedNames orderServices "Shop").Nodup ∧
      ∀ entry ∈ imports orderServices "Shop", ∀ name ∈ entry.2,
        entry.1 = modelModule (twoOrderTypes.scopeOf name) "Shop" := by
  have unscoped : ∀ method ∈ orderMethods, method.Unscoped := by decide
  have made : ∀ service ∈ orderServices, ∃ method ∈ orderMethods,
      method.toService twoOrderTypes = .ok (some service) := by decide
  exact ⟨by decide, unscoped, made, by decide, importedNames_bound_once "Shop" unscoped made⟩

end TypeScript

/-! ### Methods read from source code -/

namespace CSharp

mutual

/-- A type that is written in a source stands for a reference without scopes. -/
theorem TypeSyntax.unscoped_of_toTypeRef {ref : TypeRef} :
    (type : TypeSyntax) → type.toTypeRef = .ok ref → ref.Unscoped
  | .plain text, h => by
    obtain ⟨name, -, h⟩ := bind_eq_ok_iff.mp h
    cases h
    exact .mk fun _ ha => nomatch ha
  | .generic name arguments, h => by
    obtain ⟨refs, hrefs, h⟩ := bind_eq_ok_iff.mp h
    obtain ⟨_, -, h⟩ := bind_eq_ok_iff.mp h
    cases h
    exact .mk (unscoped_of_toTypeRefs arguments hrefs)
  | .qualified _ name, h => unscoped_of_toTypeRef name h
  | .nullable inner, h => by
    obtain ⟨_, hinner, h⟩ := bind_eq_ok_iff.mp h
    cases h
    cases unscoped_of_toTypeRef inner hinner with
    | mk hall => exact .mk hall
  | .array inner, h => by
    obtain ⟨_, hinner, h⟩ := bind_eq_ok_iff.mp h
    cases h
    cases unscoped_of_toTypeRef inner hinner with
    | mk hall => exact .mk hall

/-- So does every type of a list. -/
theorem TypeSyntax.unscoped_of_toTypeRefs {refs : List TypeRef} :
    (types : List TypeSyntax) → toTypeRefs types = .ok refs → ∀ ref ∈ refs, ref.Unscoped
  | [], h => by
    cases h
    exact fun _ ha => nomatch ha
  | type :: types, h => by
    obtain ⟨first, hfirst, h⟩ := bind_eq_ok_iff.mp h
    obtain ⟨rest, hrest, h⟩ := bind_eq_ok_iff.mp h
    cases h
    exact List.forall_mem_cons.mpr
      ⟨unscoped_of_toTypeRef type hfirst, unscoped_of_toTypeRefs types hrest⟩

end

/-- A parameter that is written in a source has a type without scopes. -/
theorem ParameterSyntax.unscoped_of_toParameter {written : ParameterSyntax} {p : MethodParameter}
    (h : written.toParameter = .ok p) : p.type.Unscoped := by
  obtain ⟨_, -, h⟩ := bind_eq_ok_iff.mp h
  split at h
  · obtain ⟨_, htype, h⟩ := bind_eq_ok_iff.mp h
    obtain ⟨_, -, h⟩ := bind_eq_ok_iff.mp h
    cases h
    exact TypeSyntax.unscoped_of_toTypeRef _ htype
  · obtain ⟨_, htype, h⟩ := bind_eq_ok_iff.mp h
    obtain ⟨_, -, h⟩ := bind_eq_ok_iff.mp h
    cases h
    cases htype
    exact .mk fun _ ha => nomatch ha

/-- A method that is written in a source has a signature without scopes. -/
theorem MethodSyntax.unscoped_of_toMethod {written : MethodSyntax} {method : Method}
    (h : written.toMethod = .ok method) : method.Unscoped := by
  obtain ⟨parameters, hparameters, h⟩ := bind_eq_ok_iff.mp h
  obtain ⟨_, -, h⟩ := bind_eq_ok_iff.mp h
  obtain ⟨answer, hanswer, h⟩ := bind_eq_ok_iff.mp h
  obtain ⟨_, -, h⟩ := bind_eq_ok_iff.mp h
  obtain ⟨_, -, h⟩ := bind_eq_ok_iff.mp h
  obtain ⟨_, -, h⟩ := bind_eq_ok_iff.mp h
  cases h
  refine ⟨TypeSyntax.unscoped_of_toTypeRef _ hanswer, fun p hp => ?_⟩
  obtain ⟨_, -, hp⟩ := exists_of_mem_mapM hparameters hp
  exact ParameterSyntax.unscoped_of_toParameter hp

end CSharp

end ClientGen
