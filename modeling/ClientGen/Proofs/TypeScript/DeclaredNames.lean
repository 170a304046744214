import ClientGen.Solution
import ClientGen.TypeScript.Type

/-!
# Types of the solution under their own names

A type that the solution declares is meant to keep its name: the name, its arguments in angle brackets,
and brackets for an array. But the names of built-in types come first. They are looked up by the short
name and the number of arguments alone, so a declared type that has one of these names is spelled as if
it were built in, although its name is imported. Every other declared type keeps its name, at any depth
of a reference. Only the names `void` and `string` do no harm, because they are their own spellings.
-/

namespace ClientGen.TypeScript

/-- The spelling of a type under its own name. -/
def ownSpelling (ref : TypeRef) : String :=
  (if ref.arguments.isEmpty then ref.name
    else ref.name ++ "<" ++ ", ".intercalate (ref.arguments.map spell) ++ ">") ++
    if ref.array then "[]" else ""

/-- The names of the built-in types without arguments. -/
def builtInNames : List String :=
  voidTypes ++ numberTypes ++ stringTypes ++ booleanTypes ++ fileTypes ++ anyTypes

/-- A built-in type with as many arguments has the name of a type, and is spelled in another way. -/
def HasBuiltInName (ref : TypeRef) : Prop :=
  match ref.arguments with
  | [] => ref.name ∈ builtInNames ∧ ref.name ≠ "void" ∧ ref.name ≠ "string"
  | [_] => ref.name ∈ unwrappedTypes ∨ ref.name ∈ collectionTypes
  | [_, _] => ref.name ∈ dictionaryTypes
  | _ => False

/-- It is decidable whether a type has the name of a built-in type. -/
instance : DecidablePred HasBuiltInName
  | ⟨_, _, [], _, _⟩ => inferInstanceAs (Decidable (_ ∧ _ ∧ _))
  | ⟨_, _, [_], _, _⟩ => inferInstanceAs (Decidable (_ ∨ _))
  | ⟨_, _, [_, _], _, _⟩ => inferInstanceAs (Decidable (_ ∈ dictionaryTypes))
  | ⟨_, _, _ :: _ :: _ :: _, _, _⟩ => instDecidableFalse

/-- A built-in type without arguments has the name that it is spelled with only when the name is
`void` or `string`. -/
theorem builtIn?_getD_eq_iff {name : String} :
    (builtIn? name).getD name = name ↔
      ¬ (name ∈ builtInNames ∧ name ≠ "void" ∧ name ≠ "string") := by
  by_cases hname : name ∈ builtInNames
  · have hall : ∀ name ∈ builtInNames, (builtIn? name).getD name = name ↔
        ¬ (name ≠ "void" ∧ name ≠ "string") := by decide
    rw [hall name hname, and_iff_right hname]
  · have hnone : builtIn? name = none := by
      simp only [builtInNames, List.mem_append, not_or] at hname
      obtain ⟨⟨⟨⟨⟨hvoid, hnumber⟩, hstring⟩, hboolean⟩, hfile⟩, hany⟩ := hname
      simp [builtIn?, *]
    rw [hnone, Option.getD_none]
    exact iff_of_true rfl fun h => hname h.1

/-- An argument is not the spelling of a type with that argument. -/
theorem argument_ne_own (name argument : String) : argument ≠ name ++ "<" ++ argument ++ ">" := by
  intro h
  have hlength := congrArg String.length h
  simp only [String.length_append] at hlength
  have hopen : "<".length = 1 := rfl
  omega

/-- A text that ends with another character does not end with an angle bracket. -/
theorem append_ne_own {s t closing : String} {c : Char} (hclosing : closing.toList.getLast? = some c)
    (hc : c ≠ '>') : s ++ closing ≠ t ++ ">" := by
  intro h
  have hlast := congrArg (fun text => text.toList.getLast?) h
  have hangle : ">".toList.getLast? = some '>' := rfl
  simp only [String.toList_append, List.getLast?_append, hclosing, hangle, Option.some_or] at hlast
  exact hc (Option.some.inj hlast)

/-- A declared type is spelled under its own name exactly when no built-in type with as many arguments
has that name and is spelled in another way. -/
theorem spell_eq_own_iff {ref : TypeRef} (declared : ref.scope ≠ "") :
    spell ref = ownSpelling ref ↔ ¬ HasBuiltInName ref := by
  obtain ⟨name, scope, arguments, nullable, array⟩ := ref
  rw [spell, ownSpelling, spellAll_eq_map, String.append_left_inj]
  match arguments with
  | [] =>
    simp only [spellNamed, HasBuiltInName, List.map_nil, List.isEmpty_nil, if_neg declared, if_true]
    exact builtIn?_getD_eq_iff
  | [argument] =>
    simp only [spellNamed, HasBuiltInName, List.map_cons, List.map_nil, List.isEmpty_cons,
      if_neg declared, String.intercalate_singleton, List.contains_iff_mem]
    by_cases hunwrapped : name ∈ unwrappedTypes
    · simp only [if_pos hunwrapped]
      exact iff_of_false (argument_ne_own _ _) fun h => h (.inl hunwrapped)
    · by_cases hcollection : name ∈ collectionTypes
      · simp only [if_neg hunwrapped, if_pos hcollection]
        exact iff_of_false (append_ne_own (c := ']') rfl (by decide)) fun h => h (.inr hcollection)
      · simp only [if_neg hunwrapped, if_neg hcollection]
        exact iff_of_true trivial (not_or.mpr ⟨hunwrapped, hcollection⟩)
  | [key, value] =>
    simp only [spellNamed, HasBuiltInName, List.map_cons, List.map_nil, List.isEmpty_cons,
      if_neg declared, List.contains_iff_mem]
    by_cases hdictionary : name ∈ dictionaryTypes
    · simp only [if_pos hdictionary]
      exact iff_of_false (append_ne_own (c := '\x7d') rfl (by decide)) fun h => h hdictionary
    · simp only [if_neg hdictionary]
      exact iff_of_true trivial hdictionary
  | first :: second :: third :: others =>
    simp only [spellNamed, HasBuiltInName, List.map_cons, List.isEmpty_cons, if_neg declared]
    exact iff_of_true trivial not_false

/-- A solution that declares the types of a music catalogue. -/
def catalogue : Solution :=
  .ofProjects [{
    name := "Disc.Dto"
    documents := [{
      name := "Models.cs"
      types := [{ name := "Single", scope := "Disc.Dto" }, { name := "Page", scope := "Disc.Dto" }] }] }]

/-- Pages of numbers keep the name of the page. -/
theorem spell_eq_own_page :
    let page := catalogue.resolve { name := "Page", arguments := [{ name := "int" }], array := true }
    page.scope ≠ "" ∧ spell page = "Page<number>[]" ∧ spell page = ownSpelling page := by
  intro page
  have declared : page.scope ≠ "" := by decide
  have hname : ¬ HasBuiltInName page := by decide
  exact ⟨declared, by decide, (spell_eq_own_iff declared).mpr hname⟩

/-- A single of the catalogue has the name of a type of numbers, and is spelled as a number. -/
theorem not_spell_eq_own_single :
    let single := catalogue.resolve { name := "Single" }
    single.scope = "Disc.Dto" ∧ ownSpelling single = "Single" ∧ spell single = "number" ∧
      spell single ≠ ownSpelling single := by
  decide

end ClientGen.TypeScript
