import ClientGen.Text.Basic

/-!
# Splitting a text at a separator

Joining texts with a separator between them and splitting at that separator are inverse to each
other as long as no text holds the separator itself. There is always a piece, and the pieces hold
nothing that the text does not hold, and no separator.
-/

namespace ClientGen.Text

variable {isSep : Char → Bool}

/-- A list without separators is one piece. -/
theorem splitWhere_of_forall {cs : List Char} (h : ∀ c ∈ cs, isSep c = false) :
    splitWhere isSep cs = [cs] := by
  induction cs with
  | nil => rfl
  | cons c rest ih =>
    obtain ⟨hc, hrest⟩ := List.forall_mem_cons.mp h
    rw [splitWhere, ih hrest, hc]
    rfl

/-- There is always a first piece. -/
theorem splitWhere_ne_nil (isSep : Char → Bool) (cs : List Char) : splitWhere isSep cs ≠ [] := by
  cases cs with
  | nil => simp [splitWhere]
  | cons c rest =>
    rw [splitWhere]
    split
    · simp
    · split <;> simp

/-- What stands before a separator is split apart from what comes after it. -/
theorem splitWhere_append_sep (front rest : List Char) {sep : Char} (hsep : isSep sep = true) :
    splitWhere isSep (front ++ sep :: rest) = splitWhere isSep front ++ splitWhere isSep rest := by
  induction front with
  | nil =>
    simp only [List.nil_append, splitWhere, if_pos hsep]
    rfl
  | cons c cs ih =>
    obtain ⟨piece, pieces, hpieces⟩ := List.exists_cons_of_ne_nil (splitWhere_ne_nil isSep cs)
    rw [hpieces] at ih
    rw [List.cons_append, splitWhere, splitWhere, ih, hpieces]
    by_cases hc : isSep c = true
    · rw [if_pos hc, if_pos hc]
      rfl
    · rw [if_neg hc, if_neg hc]
      rfl

/-- The first piece ends before the first separator. -/
theorem splitWhere_append_cons {piece rest : List Char} {sep : Char}
    (hpiece : ∀ c ∈ piece, isSep c = false) (hsep : isSep sep = true) :
    splitWhere isSep (piece ++ sep :: rest) = piece :: splitWhere isSep rest := by
  rw [splitWhere_append_sep piece rest hsep, splitWhere_of_forall hpiece, List.singleton_append]

/-- Joining the pieces with the separator between them gives the list back. -/
theorem intercalate_splitWhere (sep : Char) (cs : List Char) :
    [sep].intercalate (splitWhere (· == sep) cs) = cs := by
  induction cs with
  | nil => rfl
  | cons c rest ih =>
    obtain ⟨piece, pieces, hpieces⟩ :=
      List.exists_cons_of_ne_nil (splitWhere_ne_nil (· == sep) rest)
    rw [hpieces] at ih
    by_cases hc : c = sep
    · subst hc
      rw [splitWhere, if_pos (beq_self_eq_true c), hpieces, List.intercalate_cons_cons, ih]
      rfl
    · rw [splitWhere, if_neg (by simpa using hc), hpieces]
      cases pieces with
      | nil =>
        rw [List.intercalate_singleton] at ih ⊢
        rw [ih]
      | cons next pieces =>
        rw [List.intercalate_cons_cons] at ih ⊢
        rw [List.cons_append, List.cons_append, ih]

/-- The pieces are made of the characters that are no separators. -/
theorem of_mem_splitWhere {cs piece : List Char} (h : piece ∈ splitWhere isSep cs) :
    ∀ c ∈ piece, c ∈ cs ∧ isSep c = false := by
  induction cs generalizing piece with
  | nil =>
    obtain rfl := List.mem_singleton.mp h
    simp
  | cons c rest ih =>
    rw [splitWhere] at h
    split at h
    · cases h with
      | head => simp
      | tail _ h =>
        intro d hd
        exact (ih h d hd).imp (List.mem_cons_of_mem c) id
    · next hc =>
      have hfirst : isSep c = false := Bool.eq_false_iff.mpr hc
      split at h
      · obtain rfl := List.mem_singleton.mp h
        simp [hfirst]
      · next first others hsplit =>
        rw [hsplit] at ih
        cases h with
        | head =>
          intro d hd
          cases hd with
          | head => exact ⟨List.mem_cons_self, hfirst⟩
          | tail _ hd => exact (ih List.mem_cons_self d hd).imp (List.mem_cons_of_mem c) id
        | tail _ h =>
          intro d hd
          exact (ih (List.mem_cons_of_mem first h) d hd).imp (List.mem_cons_of_mem c) id

/-- The pieces of a text are made of its characters other than the separator. -/
theorem of_mem_split {sep : Char} {s piece : String} (h : piece ∈ split sep s) :
    ∀ c ∈ piece.toList, c ∈ s.toList ∧ c ≠ sep := by
  obtain ⟨chars, hchars, rfl⟩ := List.mem_map.mp h
  intro c hc
  rw [String.toList_ofList] at hc
  exact (of_mem_splitWhere hchars c hc).imp id beq_eq_false_iff_ne.mp

/-- A text without the separator is one piece. -/
theorem split_of_not_mem {sep : Char} {s : String} (h : sep ∉ s.toList) : split sep s = [s] := by
  have hchars : ∀ c ∈ s.toList, (c == sep) = false :=
    fun c hc => beq_eq_false_iff_ne.mpr fun heq => h (heq ▸ hc)
  rw [split, splitWhere_of_forall hchars, List.map_singleton, String.ofList_toList]

/-- A text is the only one with its pieces. -/
theorem split_injective (sep : Char) : Function.Injective (split sep) := by
  intro s t h
  have hpieces := (List.map_inj_right fun _ _ => String.ofList_inj.mp).mp h
  rw [← String.toList_inj, ← intercalate_splitWhere sep s.toList, hpieces, intercalate_splitWhere]

/-- What stands before a separator in a text is split apart from what comes after it. -/
theorem split_append_sep (sep : Char) (s rest : String) :
    split sep (s ++ String.singleton sep ++ rest) = split sep s ++ split sep rest := by
  have hchars : splitWhere (· == sep) (s.toList ++ sep :: rest.toList) =
      splitWhere (· == sep) s.toList ++ splitWhere (· == sep) rest.toList :=
    splitWhere_append_sep s.toList rest.toList (beq_self_eq_true sep)
  rw [split, String.toList_append, String.toList_append, String.toList_singleton,
    List.append_assoc, List.singleton_append, hchars, List.map_append, split, split]

/-- The first piece of a text ends before the first separator. -/
theorem split_append {sep : Char} {s rest : String} (h : sep ∉ s.toList) :
    split sep (s ++ String.singleton sep ++ rest) = s :: split sep rest := by
  rw [split_append_sep, split_of_not_mem h, List.singleton_append]

/-- The pieces of a text that joins others are the pieces of these. -/
theorem split_intercalate_eq_flatMap (sep : Char) (first : String) (rest : List String) :
    split sep ((String.singleton sep).intercalate (first :: rest)) =
      (first :: rest).flatMap (split sep) := by
  induction rest generalizing first with
  | nil => rw [String.intercalate_singleton, List.flatMap_singleton]
  | cons next rest ih =>
    rw [String.intercalate_cons_cons, split_append_sep, ih, List.flatMap_cons (x := first)]

/-- Texts without the separator are their own pieces. -/
theorem flatMap_split_of_forall {sep : Char} {texts : List String}
    (h : ∀ s ∈ texts, sep ∉ s.toList) : texts.flatMap (split sep) = texts := by
  induction texts with
  | nil => rfl
  | cons first rest ih =>
    obtain ⟨hfirst, hrest⟩ := List.forall_mem_cons.mp h
    rw [List.flatMap_cons, split_of_not_mem hfirst, ih hrest, List.singleton_append]

/-- Texts without the separator are the pieces of the text that joins them. -/
theorem split_intercalate {sep : Char} {first : String} {rest : List String}
    (h : ∀ s ∈ first :: rest, sep ∉ s.toList) :
    split sep ((String.singleton sep).intercalate (first :: rest)) = first :: rest := by
  rw [split_intercalate_eq_flatMap, flatMap_split_of_forall h]

end ClientGen.Text
