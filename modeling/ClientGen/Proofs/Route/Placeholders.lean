import ClientGen.Proofs.Route.Grammar

/-!
# Which routes have a meaning

A route is well formed when its braces are balanced and every placeholder binds a name. These are
exactly the routes whose placeholders can be listed, and the list has the bound name of every
placeholder, left to right and with repetitions. Any other route has one fault: a brace that is
left over, or else the position of the first placeholder without a name.
-/

namespace ClientGen.Route

/-- The braces are balanced, and every placeholder binds a name. -/
def WellFormed (cs : List Char) : Prop :=
  Balanced cs ∧ ∀ position body, Encloses cs position body → placeholderChars body ≠ []

/-- The first placeholder that binds no name stands at a position. -/
def FirstNameless (cs : List Char) (position : Nat) : Prop :=
  (∃ body, Encloses cs position body ∧ placeholderChars body = []) ∧
    ∀ earlier < position, ∀ body, Encloses cs earlier body → placeholderChars body ≠ []

/-- Every placeholder that is read has a name exactly when every pair of braces encloses one. -/
theorem named_pieces_iff {cs : List Char} :
    (∀ body, .placeholder body ∈ pieces cs → placeholderChars body ≠ []) ↔
      ∀ position body, Encloses cs position body → placeholderChars body ≠ [] := by
  constructor
  · intro hnamed position body henc
    obtain ⟨before, after, hpieces, _⟩ := encloses_iff.mp henc
    exact hnamed body (by simp [hpieces])
  · intro hnamed body hbody
    obtain ⟨before, after, hpieces⟩ := List.append_of_mem hbody
    exact hnamed _ body (encloses_iff.mpr ⟨before, after, hpieces, rfl⟩)

/-- The first pair of braces that binds no name is the first placeholder without a name. -/
theorem ListsPairs.firstNameless {cs : List Char} {pairs : List (Nat × List Char)}
    (lists : ListsPairs cs pairs) {pair : Nat × List Char}
    (hfind : pairs.find? (pairName · == "") = some pair) : FirstNameless cs pair.1 := by
  obtain ⟨hname, before, after, rfl, hbefore⟩ := List.find?_eq_some_iff_append.mp hfind
  have hempty : placeholderChars pair.2 = [] := (pairName_eq_empty_iff pair).mp (beq_iff_eq.mp hname)
  refine ⟨⟨pair.2, (lists.mem_iff pair.1 pair.2).mp (by simp), hempty⟩, ?_⟩
  intro earlier hlt body hbody hnameless
  rcases List.mem_append.mp ((lists.mem_iff earlier body).mpr hbody) with hmem | hmem
  · have hnamed := hbefore _ hmem
    simp [(pairName_eq_empty_iff (earlier, body)).mpr hnameless] at hnamed
  · -- What is listed from the pair on does not stand before it.
    have hlater := (List.pairwise_cons.mp (List.pairwise_append.mp lists.ordered).2.1).1
    rcases List.mem_cons.mp hmem with rfl | hmem
    · exact absurd hlt (Nat.lt_irrefl _)
    · exact absurd hlt (Nat.lt_asymm (hlater _ hmem))

/-- When no pair of braces is without a name, every placeholder has one. -/
theorem ListsPairs.named {cs : List Char} {pairs : List (Nat × List Char)}
    (lists : ListsPairs cs pairs) (hfind : pairs.find? (pairName · == "") = none) :
    ∀ position body, Encloses cs position body → placeholderChars body ≠ [] := by
  intro position body hbody hempty
  have hname := List.find?_eq_none.mp hfind _ ((lists.mem_iff position body).mpr hbody)
  exact hname (beq_iff_eq.mpr ((pairName_eq_empty_iff (position, body)).mpr hempty))

/-- Only one position is that of the first placeholder without a name. -/
theorem FirstNameless.unique {cs : List Char} {position other : Nat}
    (hposition : FirstNameless cs position) (hother : FirstNameless cs other) : position = other := by
  obtain ⟨⟨body, hbody, hempty⟩, hbefore⟩ := hposition
  obtain ⟨⟨body', hbody', hempty'⟩, hbefore'⟩ := hother
  rcases Nat.lt_trichotomy position other with h | h | h
  · exact absurd hempty (hbefore' position h body hbody)
  · exact h
  · exact absurd hempty' (hbefore other h body' hbody')

/-- A template with balanced braces that is not well formed has a first placeholder without a name. -/
theorem wellFormed_or_firstNameless (route : String) (hbalanced : Balanced route.toList) :
    (WellFormed route.toList ∧
        placeholders route = .ok ((pieces route.toList).filterMap Piece.name?)) ∨
      ∃ position, FirstNameless route.toList position ∧
        placeholders route = .error (.emptyPlaceholder position) := by
  have lists := listsPairs_pieces route.toList
  rw [placeholders_of_balanced route hbalanced, ← map_pairName_pairsFrom 0]
  cases hfind : (pairsFrom 0 (pieces route.toList)).find? (pairName · == "") with
  | none => exact .inl ⟨⟨hbalanced, lists.named hfind⟩, rfl⟩
  | some pair => exact .inr ⟨pair.1, lists.firstNameless hfind, rfl⟩

/-- The placeholders can be listed exactly when the route is well formed, and the list has the name
of each, left to right. -/
theorem placeholders_eq_ok_iff {route : String} {names : List String} :
    placeholders route = .ok names ↔
      WellFormed route.toList ∧ names = (pieces route.toList).filterMap Piece.name? := by
  by_cases hbalanced : Balanced route.toList
  · rcases wellFormed_or_firstNameless route hbalanced with ⟨hformed, hok⟩ | ⟨position, hfirst, herror⟩
    · rw [hok, Except.ok.injEq]
      exact ⟨fun h => ⟨hformed, h.symm⟩, fun h => h.2.symm⟩
    · obtain ⟨⟨body, henc, hempty⟩, _⟩ := hfirst
      rw [herror]
      exact iff_of_false (by simp) fun h => h.1.2 position body henc hempty
  · rw [placeholders_of_not_balanced route hbalanced]
    exact iff_of_false (by simp) fun h => hbalanced h.1.1

/-- A route that is not well formed has one fault: a brace left over, or else the first placeholder
without a name. -/
theorem placeholders_eq_error_iff {route : String} {fault : Fault} :
    placeholders route = .error fault ↔
      (¬ Balanced route.toList ∧ fault = .unbalancedBraces) ∨
        (Balanced route.toList ∧
          ∃ position, FirstNameless route.toList position ∧ fault = .emptyPlaceholder position) := by
  by_cases hbalanced : Balanced route.toList
  · rcases wellFormed_or_firstNameless route hbalanced with ⟨hformed, hok⟩ | ⟨position, hfirst, herror⟩
    · rw [hok]
      refine iff_of_false (by simp) ?_
      rintro (⟨h, _⟩ | ⟨_, position, ⟨⟨body, henc, hempty⟩, _⟩, _⟩)
      · exact h hbalanced
      · exact hformed.2 position body henc hempty
    · rw [herror, Except.error.injEq]
      constructor
      · rintro rfl
        exact .inr ⟨hbalanced, position, hfirst, rfl⟩
      · rintro (⟨h, _⟩ | ⟨_, other, hother, rfl⟩)
        · exact absurd hbalanced h
        · rw [hfirst.unique hother]
  · rw [placeholders_of_not_balanced route hbalanced, Except.error.injEq]
    constructor
    · rintro rfl
      exact .inl ⟨hbalanced, rfl⟩
    · rintro (⟨_, rfl⟩ | ⟨h, _⟩)
      · rfl
      · exact absurd h hbalanced

end ClientGen.Route
