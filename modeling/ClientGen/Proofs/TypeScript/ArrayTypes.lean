import ClientGen.CSharp.TypeSyntax
import ClientGen.Proofs.Failure
import ClientGen.Solution
import ClientGen.TypeScript.Type

/-!
# Arrays of arrays

An array of a type is meant to be spelled as that type with one more pair of brackets. A reference to a
type has only one flag for all the arrays around a type, and setting it twice changes nothing. So a type
is spelled with one pair of brackets however many arrays it is of, and an array keeps its rank exactly
when its elements are no arrays themselves. Question marks do no harm, wherever they stand, and neither
do arrays in the arguments of a type: those are references of their own.
-/

namespace ClientGen

open TypeScript (spell)

namespace CSharp.TypeSyntax

/-- How many arrays a type is of, one around the other. -/
def arrayDepth : TypeSyntax → Nat
  | .array inner => inner.arrayDepth + 1
  | .nullable inner => inner.arrayDepth
  | .qualified _ name => name.arrayDepth
  | .plain _ | .generic _ _ => 0

/-- What a type is made of below all its arrays, question marks and qualifiers. -/
def elementType : TypeSyntax → TypeSyntax
  | .array inner => inner.elementType
  | .nullable inner => inner.elementType
  | .qualified _ name => name.elementType
  | .plain text => .plain text
  | .generic name arguments => .generic name arguments

/-- The spelling of a type in a client module for a solution. -/
def spelling (solution : Solution) (type : TypeSyntax) : Except SourceFault String :=
  type.toTypeRef.map fun ref => spell (solution.resolve ref)

/-- The flag of a reference says whether the type is an array, of whatever depth. -/
theorem array_eq_of_toTypeRef {ref : TypeRef} :
    (type : TypeSyntax) → type.toTypeRef = .ok ref → ref.array = decide (0 < type.arrayDepth)
  | .plain text, h => by
    obtain ⟨name, -, h⟩ := bind_eq_ok_iff.mp h
    cases h
    rfl
  | .generic name arguments, h => by
    obtain ⟨refs, -, h⟩ := bind_eq_ok_iff.mp h
    obtain ⟨_, -, h⟩ := bind_eq_ok_iff.mp h
    cases h
    rfl
  | .qualified _ name, h => array_eq_of_toTypeRef name h
  | .nullable inner, h => by
    obtain ⟨innerRef, hinner, h⟩ := bind_eq_ok_iff.mp h
    cases h
    have harray : innerRef.array = _ := array_eq_of_toTypeRef inner hinner
    exact harray
  | .array inner, h => by
    obtain ⟨_, -, h⟩ := bind_eq_ok_iff.mp h
    cases h
    exact (decide_eq_true (Nat.succ_pos inner.arrayDepth)).symm

end CSharp.TypeSyntax

namespace TypeScript

/-- A question mark does not show in the spelling of a type. -/
theorem spell_resolve_nullable (solution : Solution) (ref : TypeRef) (nullable : Bool) :
    spell (solution.resolve { ref with nullable }) = spell (solution.resolve ref) := by
  obtain ⟨name, scope, arguments, _, array⟩ := ref
  rfl

/-- The flag of an array shows as one pair of brackets after what is spelled without it. -/
theorem spell_resolve_array (solution : Solution) (ref : TypeRef) :
    spell (solution.resolve ref) =
      spell (solution.resolve { ref with array := false }) ++ if ref.array then "[]" else "" := by
  obtain ⟨name, scope, arguments, nullable, array⟩ := ref
  simp [Solution.resolve, spell]

end TypeScript

namespace CSharp.TypeSyntax

/-- Without the flag of an array a type is spelled as its element type. -/
theorem spelling_elementType (solution : Solution) : (type : TypeSyntax) →
    (type.toTypeRef.map fun ref => spell (solution.resolve { ref with array := false })) =
      type.elementType.spelling solution
  | .plain text => by
    rw [elementType, spelling, toTypeRef]
    cases text.read <;> rfl
  | .generic name arguments => by
    rw [elementType, spelling, toTypeRef]
    cases toTypeRefs arguments with
    | error fault => rfl
    | ok refs => cases name.read <;> rfl
  | .qualified _ name => spelling_elementType solution name
  | .nullable inner => by
    rw [elementType, ← spelling_elementType solution inner, toTypeRef]
    cases inner.toTypeRef with
    | error fault => rfl
    | ok ref =>
      have hspell := TypeScript.spell_resolve_nullable solution { ref with array := false } true
      exact congrArg Except.ok hspell
  | .array inner => by
    rw [elementType, ← spelling_elementType solution inner, toTypeRef]
    cases inner.toTypeRef <;> rfl

/-- A type is spelled as its element type, with one pair of brackets when it is an array. -/
theorem spelling_eq (solution : Solution) (type : TypeSyntax) :
    type.spelling solution = (type.elementType.spelling solution).map fun element =>
      element ++ if 0 < type.arrayDepth then "[]" else "" := by
  rw [← spelling_elementType, spelling]
  cases href : type.toTypeRef with
  | error fault => rfl
  | ok ref =>
    have hspell := TypeScript.spell_resolve_array solution ref
    rw [array_eq_of_toTypeRef type href] at hspell
    simpa [Except.map] using hspell

/-- An array of a type is spelled as the element type of that type with one pair of brackets. That is
the spelling of the type followed by brackets exactly when the type is no array itself. -/
theorem spelling_array_iff {solution : Solution} {type : TypeSyntax} {text : String}
    (h : type.spelling solution = .ok text) :
    (∃ element, type.elementType.spelling solution = .ok element ∧
        (TypeSyntax.array type).spelling solution = .ok (element ++ "[]")) ∧
      ((TypeSyntax.array type).spelling solution = .ok (text ++ "[]") ↔ type.arrayDepth = 0) := by
  rw [spelling_eq, map_eq_ok_iff] at h
  obtain ⟨element, helement, rfl⟩ := h
  have harray : (TypeSyntax.array type).spelling solution = .ok (element ++ "[]") := by
    rw [spelling_eq, elementType, helement]
    rfl
  refine ⟨⟨element, helement, harray⟩, ?_⟩
  rw [harray, Except.ok.injEq, String.append_left_inj]
  cases harrays : type.arrayDepth with
  | zero => simp
  | succ depth =>
    have hlonger : element ≠ element ++ "[]" := by
      intro heq
      have hlength := congrArg String.length heq
      rw [String.length_append] at hlength
      exact absurd hlength (Nat.ne_of_lt (Nat.lt_add_of_pos_right (by decide)))
    simpa using hlonger

/-- The type `List<int?[]>`, with elements of its own below the angle brackets. -/
def listOfArrays : TypeSyntax :=
  .generic (Source.ofText "List") [.array (.nullable (.plain (Source.ofText "int")))]

/-- An array of such lists keeps its rank. -/
theorem spelling_array_lists :
    listOfArrays.spelling (.ofProjects []) = .ok "number[][]" ∧
      (TypeSyntax.array listOfArrays).spelling (.ofProjects []) = .ok "number[][][]" := by
  have h : listOfArrays.spelling (.ofProjects []) = .ok "number[][]" := by decide
  exact ⟨h, (spelling_array_iff h).2.mpr rfl⟩

/-- An array of arrays of numbers loses one of them, from the source on: it is spelled like an array
of numbers. -/
theorem not_spelling_array_jagged :
    let ints : TypeSyntax := .array (.plain (Source.ofText "int"))
    ints.spelling (.ofProjects []) = .ok "number[]" ∧
      (TypeSyntax.array ints).spelling (.ofProjects []) = .ok "number[]" ∧
      (TypeSyntax.array ints).spelling (.ofProjects []) ≠ .ok ("number[]" ++ "[]") ∧
      (ofTrees? (Tree.ofSource (Source.ofText "int[][]"))).map
        (fun (type, left) => (type.arrayDepth, type.spelling (.ofProjects []), left.length)) =
          some (2, .ok "number[]", 0) := by
  refine ⟨by decide, by decide, by decide, by decide +kernel⟩

end CSharp.TypeSyntax

end ClientGen
