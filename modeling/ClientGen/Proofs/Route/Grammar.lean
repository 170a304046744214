import ClientGen.Proofs.Route.Pieces

/-!
# The grammar of route templates

Two things can be read off a template without reading it into pieces: whether its braces are
balanced, and which pairs of braces enclose a body, from left to right. They decide what comes of
listing the placeholders, for every template: braces that are not balanced are the fault, then the
first pair whose body binds no name, and otherwise every pair gives the name that its body binds.
-/

namespace ClientGen.Route

/-- Whether braces are balanced can be computed: no piece is a stray brace. -/
instance (cs : List Char) : Decidable (Balanced cs) :=
  decidable_of_iff _ (any_isStrayBrace_pieces cs)

/-- A list has all pairs of braces that enclose a body, in textual order, each pair as the position
of its opening brace and its body. -/
structure ListsPairs (cs : List Char) (pairs : List (Nat × List Char)) : Prop where
  ordered : pairs.Pairwise fun pair later => pair.1 < later.1
  mem_iff : ∀ position body, (position, body) ∈ pairs ↔ Encloses cs position body

/-- The placeholders among pieces of which the first stands at `position`, each at its position. -/
def pairsFrom (position : Nat) : List Piece → List (Nat × List Char)
  | [] => []
  | .plain _ :: rest => pairsFrom (position + 1) rest
  | .placeholder body :: rest => (position, body) :: pairsFrom (position + body.length + 2) rest

/-- The placeholders after a piece stand where the text of that piece ends, or later. -/
theorem mem_pairsFrom_cons {start position : Nat} {body : List Char} {piece : Piece}
    {parts : List Piece} :
    (position, body) ∈ pairsFrom start (piece :: parts) ↔
      (piece = .placeholder body ∧ start = position) ∨
        (position, body) ∈ pairsFrom (start + piece.chars.length) parts := by
  cases piece with
  | plain c => simp [pairsFrom, Piece.chars]
  | placeholder other =>
    have hlength : start + (Piece.placeholder other).chars.length = start + other.length + 2 := by
      simp [Piece.chars, Nat.add_assoc]
    rw [pairsFrom, List.mem_cons, hlength, Prod.mk.injEq, Piece.placeholder.injEq]
    grind

/-- A placeholder stands after the text of all pieces before it. -/
theorem mem_pairsFrom_iff {start position : Nat} {body : List Char} {parts : List Piece} :
    (position, body) ∈ pairsFrom start parts ↔
      ∃ before after, parts = before ++ .placeholder body :: after ∧
        start + (before.flatMap Piece.chars).length = position := by
  induction parts generalizing start with
  | nil => simp [pairsFrom]
  | cons piece parts ih =>
    rw [mem_pairsFrom_cons, ih]
    constructor
    · rintro (⟨rfl, rfl⟩ | ⟨before, after, rfl, rfl⟩)
      · exact ⟨[], parts, rfl, rfl⟩
      · exact ⟨piece :: before, after, rfl, by simp [Nat.add_assoc]⟩
    · rintro ⟨before, after, hparts, rfl⟩
      cases before with
      | nil => exact .inl ⟨(List.cons.inj hparts).1, rfl⟩
      | cons first before =>
        obtain ⟨rfl, rfl⟩ := List.cons.inj hparts
        exact .inr ⟨before, after, rfl, by simp [Nat.add_assoc]⟩

/-- No placeholder stands before the first piece. -/
theorem le_of_mem_pairsFrom {start : Nat} {pair : Nat × List Char} {parts : List Piece}
    (hpair : pair ∈ pairsFrom start parts) : start ≤ pair.1 := by
  obtain ⟨before, _, _, hposition⟩ := mem_pairsFrom_iff.mp hpair
  omega

/-- Placeholders are listed in the order in which they stand. -/
theorem pairsFrom_ordered (start : Nat) (parts : List Piece) :
    (pairsFrom start parts).Pairwise fun pair later => pair.1 < later.1 := by
  induction parts generalizing start with
  | nil => exact .nil
  | cons piece parts ih =>
    cases piece with
    | plain c => exact ih (start + 1)
    | placeholder body =>
      refine .cons (fun later hlater => ?_) (ih _)
      have hstart := le_of_mem_pairsFrom hlater
      show start < later.1
      omega

/-- The placeholders that are read are all pairs of braces that enclose a body. -/
theorem listsPairs_pieces (cs : List Char) : ListsPairs cs (pairsFrom 0 (pieces cs)) where
  ordered := pairsFrom_ordered 0 (pieces cs)
  mem_iff position body := by
    rw [mem_pairsFrom_iff, encloses_iff]
    simp only [Nat.zero_add]

/-- The name that the body of a pair of braces binds. -/
def pairName (pair : Nat × List Char) : String :=
  placeholderName (String.ofList pair.2)

/-- The name of a pair is what is left of its body. -/
theorem pairName_eq (pair : Nat × List Char) :
    pairName pair = String.ofList (placeholderChars pair.2) := by
  rw [pairName, placeholderName, String.toList_ofList]

/-- A pair binds no name exactly when nothing is left of its body. -/
theorem pairName_eq_empty_iff (pair : Nat × List Char) :
    pairName pair = "" ↔ placeholderChars pair.2 = [] := by
  rw [pairName_eq, ← String.toList_inj, String.toList_ofList]
  rfl

/-- The pairs name the placeholders that they are. -/
theorem map_pairName_pairsFrom (start : Nat) (parts : List Piece) :
    (pairsFrom start parts).map pairName = parts.filterMap Piece.name? := by
  induction parts generalizing start with
  | nil => rfl
  | cons piece parts ih =>
    cases piece with
    | plain c => exact ih (start + 1)
    | placeholder body =>
      rw [pairsFrom, List.map_cons, ih, pairName_eq]
      rfl

/-- The names are those of the pairs, unless one pair binds none. -/
theorem namesFrom_eq (start : Nat) (parts : List Piece) :
    namesFrom start parts =
      match (pairsFrom start parts).find? (pairName · == "") with
      | some pair => .error (.emptyPlaceholder pair.1)
      | none => .ok ((pairsFrom start parts).map pairName) := by
  induction parts generalizing start with
  | nil => rfl
  | cons piece parts ih =>
    cases piece with
    | plain c => exact ih (start + 1)
    | placeholder body =>
      rw [namesFrom, pairsFrom, List.find?_cons, ih]
      cases hname : placeholderChars body with
      | nil =>
        have hpair : pairName (start, body) = "" := (pairName_eq_empty_iff _).mpr hname
        rw [hpair]
        rfl
      | cons c name =>
        have hpair : pairName (start, body) = String.ofList (c :: name) := by
          rw [pairName_eq, hname]
        have hnamed : (pairName (start, body) == "") = false := by
          rw [beq_eq_false_iff_ne, Ne, pairName_eq_empty_iff, hname]
          exact List.cons_ne_nil c name
        rw [List.map_cons, hnamed, hpair]
        cases (pairsFrom (start + body.length + 2) parts).find? (pairName · == "") <;> rfl

/-- Braces that are not balanced are the fault, whatever the placeholders are. -/
theorem placeholders_of_not_balanced (route : String) (hbalanced : ¬ Balanced route.toList) :
    placeholders route = .error .unbalancedBraces := by
  have hstray : (pieces route.toList).any isStrayBrace = true := by
    rw [← Bool.not_eq_false, any_isStrayBrace_pieces]
    exact hbalanced
  simp only [placeholders, hstray, if_true]

/-- When the braces are balanced, the pairs decide: the first one without a name is the fault, or all
their names are listed. -/
theorem placeholders_of_balanced (route : String) (hbalanced : Balanced route.toList) :
    placeholders route =
      match (pairsFrom 0 (pieces route.toList)).find? (pairName · == "") with
      | some pair => .error (.emptyPlaceholder pair.1)
      | none => .ok ((pairsFrom 0 (pieces route.toList)).map pairName) := by
  have hstray := (any_isStrayBrace_pieces route.toList).mpr hbalanced
  simp only [placeholders, hstray, Bool.false_eq_true, if_false, namesFrom_eq]

/-- Listing the placeholders of a template fails with unbalanced braces when its braces are not
balanced, else at the first pair of braces that binds no name, and else gives the names of all
pairs in textual order. -/
theorem placeholders_outcome (route : String) :
    ∃ pairs, ListsPairs route.toList pairs ∧
      (placeholders route).mapError Fault.message =
        if Balanced route.toList then
          match pairs.find? (pairName · == "") with
          | some pair => .error ("empty placeholder at position " ++ Nat.repr pair.1)
          | none => .ok (pairs.map pairName)
        else .error "unbalanced braces" := by
  refine ⟨_, listsPairs_pieces route.toList, ?_⟩
  by_cases hbalanced : Balanced route.toList
  · rw [if_pos hbalanced, placeholders_of_balanced route hbalanced]
    cases (pairsFrom 0 (pieces route.toList)).find? (pairName · == "") <;> rfl
  · rw [if_neg hbalanced, placeholders_of_not_balanced route hbalanced]
    rfl

end ClientGen.Route
