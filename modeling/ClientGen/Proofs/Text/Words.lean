import ClientGen.Proofs.Text.Splitting
import ClientGen.Text.Blank
import Mathlib.Data.List.Infix
import Mathlib.Data.String.Basic

/-!
# Blocks of characters and the words they lie in

A block of characters without a separator lies on one side of any separator in a text. So it occurs
in a text exactly when it occurs in one of its pieces, and turning runs of white space into single
spaces neither makes nor destroys an occurrence of a block without white space.
-/

namespace ClientGen.Text

variable {part : List Char} {sep : Char} {isSep : Char → Bool}

/-- A block at the beginning ends before the first separator. -/
theorem prefix_append_cons_iff (before after : List Char) (h : sep ∉ part) :
    part <+: before ++ sep :: after ↔ part <+: before := by
  induction before generalizing part with
  | nil =>
    cases part with
    | nil => simp
    | cons c cs =>
      have hne : c ≠ sep := fun heq => h (heq ▸ List.mem_cons_self)
      simp [hne]
  | cons b before ih =>
    cases part with
    | nil => simp
    | cons c cs =>
      rw [List.cons_append, List.cons_prefix_cons, List.cons_prefix_cons,
        ih fun hmem => h (List.mem_cons_of_mem c hmem)]

/-- A block lies before a separator or after it. -/
theorem infix_append_cons_iff (before after : List Char) (h : sep ∉ part) :
    part <:+: before ++ sep :: after ↔ part <:+: before ∨ part <:+: after := by
  induction before with
  | nil =>
    have hfirst := prefix_append_cons_iff [] after h
    rw [List.nil_append] at hfirst
    rw [List.nil_append, List.infix_cons_iff, hfirst, List.prefix_nil, List.infix_nil]
  | cons b before ih =>
    rw [List.cons_append, List.infix_cons_iff, ih, ← List.cons_append,
      prefix_append_cons_iff (b :: before) after h, List.infix_cons_iff, or_assoc]

/-- A block without separators at the beginning of a text is at the beginning of its first piece. -/
theorem prefix_iff_of_splitWhere {cs first : List Char} {others : List (List Char)}
    (hpart : ∀ c ∈ part, isSep c = false) (h : splitWhere isSep cs = first :: others) :
    part <+: cs ↔ part <+: first := by
  induction cs generalizing part first others with
  | nil =>
    obtain ⟨rfl, -⟩ := List.cons.inj h
    rfl
  | cons c rest ih =>
    rw [splitWhere] at h
    cases part with
    | nil => simp
    | cons d part =>
      obtain ⟨hd, hpart⟩ := List.forall_mem_cons.mp hpart
      split at h
      · next hsep =>
        obtain ⟨rfl, -⟩ := List.cons.inj h
        have hne : d ≠ c := by
          rintro rfl
          rw [hd] at hsep
          cases hsep
        simp [hne]
      · split at h
        · next hnone => exact absurd hnone (splitWhere_ne_nil isSep rest)
        · next piece pieces hrest =>
          obtain ⟨rfl, -⟩ := List.cons.inj h
          rw [List.cons_prefix_cons, List.cons_prefix_cons, ih hpart hrest]

/-- A block without separators occurs in a text exactly when it occurs in one of its pieces. -/
theorem infix_iff_exists_splitWhere (cs : List Char) (hpart : ∀ c ∈ part, isSep c = false) :
    part <:+: cs ↔ ∃ piece ∈ splitWhere isSep cs, part <:+: piece := by
  induction cs with
  | nil => simp [splitWhere]
  | cons c rest ih =>
    cases hsplit : splitWhere isSep (c :: rest) with
    | nil => exact absurd hsplit (splitWhere_ne_nil isSep _)
    | cons first others =>
      rw [List.infix_cons_iff, ih, prefix_iff_of_splitWhere hpart hsplit, List.exists_mem_cons_iff]
      rw [splitWhere] at hsplit
      split at hsplit
      · obtain ⟨rfl, rfl⟩ := List.cons.inj hsplit
        rw [List.prefix_nil, List.infix_nil]
      · split at hsplit
        · next hnone => exact absurd hnone (splitWhere_ne_nil isSep rest)
        · next piece pieces hrest =>
          obtain ⟨rfl, rfl⟩ := List.cons.inj hsplit
          rw [hrest, List.exists_mem_cons_iff, List.infix_cons_iff, or_assoc]

/-- A block without a space occurs in words joined by spaces exactly when it occurs in one of them. -/
theorem infix_intercalate_iff (pieces : List String) (hne : part ≠ []) (h : ' ' ∉ part) :
    part <:+: (" ".intercalate pieces).toList ↔ ∃ piece ∈ pieces, part <:+: piece.toList := by
  induction pieces with
  | nil =>
    have hempty : " ".intercalate [] = "" := rfl
    simp [hempty, hne]
  | cons first rest ih =>
    cases rest with
    | nil => simp
    | cons second rest =>
      have hspace : " ".toList = [' '] := rfl
      rw [String.intercalate_cons_cons, String.toList_append, String.toList_append, hspace,
        List.append_assoc, List.singleton_append, infix_append_cons_iff _ _ h, ih]
      exact (List.exists_mem_cons_iff (fun piece : String => part <:+: piece.toList) first _).symm

/-- Collapsing white space keeps every block without white space, and makes no new one. -/
theorem infix_collapse_iff (s : String) (hne : part ≠ []) (hpart : ∀ c ∈ part, isBlank c = false) :
    part <:+: (collapse s).toList ↔ part <:+: s.toList := by
  have hspace : ' ' ∉ part := by
    intro hmem
    have hno := hpart ' ' hmem
    revert hno
    decide
  rw [collapse, infix_intercalate_iff _ hne hspace, infix_iff_exists_splitWhere s.toList hpart]
  constructor
  · rintro ⟨word, hword, hmem⟩
    obtain ⟨piece, hpiece, rfl⟩ := List.mem_map.mp hword
    rw [String.toList_ofList] at hmem
    exact ⟨piece, (List.mem_filter.mp hpiece).1, hmem⟩
  · rintro ⟨piece, hpiece, hmem⟩
    have hfull : (!piece.isEmpty) = true := by
      rw [Bool.not_eq_true', List.isEmpty_eq_false_iff]
      rintro rfl
      exact hne (List.infix_nil.mp hmem)
    refine ⟨String.ofList piece, List.mem_map_of_mem (List.mem_filter.mpr ⟨hpiece, hfull⟩), ?_⟩
    rwa [String.toList_ofList]

end ClientGen.Text
