/-!
# References to types

A reference names a type by its short name, with generic arguments and two flags. Its scope is
the namespace that declares the type; a reference is read without one and gets it when it is
resolved against a solution, so an empty scope marks a type the solution does not declare.
-/

namespace ClientGen

/-- A reference to a named type. -/
structure TypeRef where
  /-- The short name. -/
  name : String
  /-- The namespace that declares the type, or empty. -/
  scope : String := ""
  /-- The generic arguments. -/
  arguments : List TypeRef := []
  /-- Is the reference nullable? -/
  nullable : Bool := false
  /-- Is it an array of the named type? -/
  array : Bool := false
deriving Repr, Inhabited

namespace TypeRef

mutual

/-- Equality of references is decided field by field, through the arguments. -/
def decEq : (a b : TypeRef) → Decidable (a = b)
  | ⟨n, s, as, u, r⟩, ⟨n', s', as', u', r'⟩ =>
    match decEqList as as' with
    | isTrue hs =>
      if h : n = n' ∧ s = s' ∧ u = u' ∧ r = r' then
        isTrue (by obtain ⟨rfl, rfl, rfl, rfl⟩ := h; rw [hs])
      else isFalse (by intro e; injection e; exact h (by simp_all))
    | isFalse hs => isFalse (by intro e; injection e; exact hs (by assumption))

/-- Equality of lists of references is decided member by member. -/
def decEqList : (as bs : List TypeRef) → Decidable (as = bs)
  | [], [] => isTrue rfl
  | [], _ :: _ => isFalse (by simp)
  | _ :: _, [] => isFalse (by simp)
  | a :: as, b :: bs =>
    match decEq a b, decEqList as bs with
    | isTrue h, isTrue hs => isTrue (by rw [h, hs])
    | isFalse h, _ => isFalse (by intro e; injection e; exact h (by assumption))
    | _, isFalse hs => isFalse (by intro e; injection e; exact hs (by assumption))

end

/-- Equality of references is decidable. -/
instance : DecidableEq TypeRef := decEq

mutual

/-- The spelling of a reference in messages: `Name<A, B>[]?`. -/
def text : TypeRef → String
  | ⟨name, _, arguments, nullable, array⟩ =>
    name ++ (if arguments.isEmpty then "" else "<" ++ ", ".intercalate (texts arguments) ++ ">") ++
      (if array then "[]" else "") ++ (if nullable then "?" else "")

/-- The spellings of a list of references. -/
def texts : List TypeRef → List String
  | [] => []
  | ref :: refs => ref.text :: texts refs

end

end TypeRef

end ClientGen
