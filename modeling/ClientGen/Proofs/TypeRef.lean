import ClientGen.TypeScript.Imports
import ClientGen.TypeScript.Type

/-!
# Induction over references to types

A reference holds its arguments in a list, so a fact about every reference is proved from the same
fact about all of its arguments. The functions on references go through that list one member at a
time; here they are brought back to the operations on lists.
-/

namespace ClientGen

namespace TypeRef

/-- A fact holds of every reference when it passes from the arguments of a reference to it. -/
theorem induct {P : TypeRef → Prop}
    (step : ∀ name scope arguments nullable array, (∀ a ∈ arguments, P a) →
      P ⟨name, scope, arguments, nullable, array⟩) (ref : TypeRef) : P ref := by
  refine @TypeRef.rec P (fun refs => ∀ a ∈ refs, P a) ?_ ?_ ?_ ref
  · exact fun name scope arguments nullable array h => step name scope arguments nullable array h
  · exact fun a h => nomatch h
  · intro first rest hfirst hrest a ha
    rcases List.mem_cons.mp ha with rfl | ha
    · exact hfirst
    · exact hrest a ha

end TypeRef

namespace TypeScript

/-- The declared types in a list of references are those in each member, in order. -/
theorem declaredTypesAll_eq_flatMap (refs : List TypeRef) :
    declaredTypesAll refs = refs.flatMap declaredTypes := by
  induction refs with
  | nil => rfl
  | cons ref refs ih => rw [declaredTypesAll, ih, List.flatMap_cons]

/-- A declared type is among its own declared types. -/
theorem mem_declaredTypes_self {ref : TypeRef} (h : ref.scope ≠ "") : ref ∈ declaredTypes ref := by
  obtain ⟨name, scope, arguments, nullable, array⟩ := ref
  rw [declaredTypes, if_neg h]
  exact List.mem_cons_self

/-- The declared types in the arguments of a reference are among its own. -/
theorem mem_declaredTypes_of_argument {ref argument node : TypeRef}
    (hargument : argument ∈ ref.arguments) (hnode : node ∈ declaredTypes argument) :
    node ∈ declaredTypes ref := by
  obtain ⟨name, scope, arguments, nullable, array⟩ := ref
  have hinner : node ∈ declaredTypesAll arguments := by
    rw [declaredTypesAll_eq_flatMap]
    exact List.mem_flatMap.mpr ⟨argument, hargument, hnode⟩
  rw [declaredTypes]
  split
  · exact hinner
  · exact List.mem_cons_of_mem _ hinner

end TypeScript

end ClientGen
